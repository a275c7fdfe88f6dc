import DialogueEngine.Value.Arithmetic
import DialogueEngine.Value.Order

/-!
# Comparison of values

Numbers are compared by value, whatever their kinds, and strings by code points. Nothing else is
ordered, and equality of other values is that of their contents.
-/

namespace DialogueEngine

namespace Value

/-- The order of two values of one kind, or of two numbers. An integer beside a float is rounded
to a float first. -/
def compare? : Value → Value → Option Ordering
  | nil, nil => some .eq
  | bool a, bool b => some (compare a.toNat b.toNat)
  | int a, int b => some (compare a.toInt b.toInt)
  | string a, string b => some (compare a b)
  | a, b =>
      match a.asNumber?, b.asNumber? with
      | some x, some y => x.compare? y
      | _, _ => none

/-- Equality for programs, in which the integer 1 equals the float 1.0. -/
def equals (a b : Value) : Bool :=
  match a, b with
  | int i, int j => i = j
  | _, _ =>
      match a.asNumber?, b.asNumber? with
      | some x, some y => x.numericEq y
      | _, _ => a = b

def unordered (a b : Value) : Failure :=
  ⟨.host ("cannot order " ++ a.literalText ++ " and " ++ b.literalText), none⟩

/-- The order of two numbers or two strings, for programs. -/
def comparison (a b : Value) : Except Failure Ordering :=
  match a, b with
  | string s, string t => .ok (compare s t)
  | string _, b => .error ⟨.typeMismatch .string b.kind, none⟩
  | a, b =>
      if a.isNumber && b.isNumber then
        match a.compare? b with
        | some o => .ok o
        | none => .error (unordered a b)
      else .error (notNumbers a b)

end Value

end DialogueEngine
