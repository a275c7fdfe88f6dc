import DialogueEngine.Failure
import DialogueEngine.Value.Text

/-!
# Arithmetic on values

Two integers give an integer, modulo 2^64 in the signed range; two numbers of which one is a float
give a float. Addition also joins texts, and the bit operations take integers only.
-/

namespace DialogueEngine

namespace Value

/-- The kind to blame when one of two operands is no number. -/
def nonNumberKind (a b : Value) : Kind := if a.isNumber then b.kind else a.kind

def notNumbers (a b : Value) : Failure := ⟨.typeMismatch .number (nonNumberKind a b), none⟩

/-- Applies an operation for integers or, with a float among the operands, one for floats. -/
def onNumbers (onInts : Int64 → Int64 → Int64) (onFloats : Double → Double → Double) :
    Value → Value → Except Failure Value
  | int i, int j => .ok (int (onInts i j))
  | a, b =>
      match a.asNumber?, b.asNumber? with
      | some x, some y => .ok (float (onFloats x y))
      | _, _ => .error (notNumbers a b)

def isString : Value → Bool
  | string _ => true
  | _ => false

/-- The sum of two numbers, or the texts of both operands joined if one is a string. -/
def add (a b : Value) : Except Failure Value :=
  if a.isString || b.isString then .ok (string (a.plainText ++ b.plainText))
  else onNumbers (· + ·) Double.add a b

def sub : Value → Value → Except Failure Value := onNumbers (· - ·) Double.sub

def mul : Value → Value → Except Failure Value := onNumbers (· * ·) Double.mul

def isZero : Value → Bool
  | int i => i = 0
  | float x => x.isZero
  | _ => false

/-- A zero divisor is refused, a dividend that is no number first. -/
def onDivisor (onInts : Int64 → Int64 → Int64) (onFloats : Double → Double → Double)
    (a b : Value) : Except Failure Value :=
  if a.isNumber && b.isZero then .error ⟨.divisionByZero, none⟩
  else onNumbers onInts onFloats a b

/-- Integers are divided towards zero. -/
def div : Value → Value → Except Failure Value := onDivisor (· / ·) Double.div

/-- The remainder has the sign of the dividend. -/
def rem : Value → Value → Except Failure Value := onDivisor (· % ·) Double.rem

def abs : Value → Except Failure Value
  | int i => .ok (int (if i < 0 then -i else i))
  | float x => .ok (float x.abs)
  | a => .error ⟨.typeMismatch .number a.kind, none⟩

/-- Applies an operation for integers. -/
def onInts (op : Int64 → Int64 → Int64) : Value → Value → Except Failure Value
  | int i, int j => .ok (int (op i j))
  | int _, b => .error ⟨.typeMismatch .int b.kind, none⟩
  | a, _ => .error ⟨.typeMismatch .int a.kind, none⟩

def bitAnd : Value → Value → Except Failure Value := onInts (· &&& ·)

def bitOr : Value → Value → Except Failure Value := onInts (· ||| ·)

def bitXor : Value → Value → Except Failure Value := onInts (· ^^^ ·)

/-- Folds an operation over values from the left; there has to be one. -/
def reduce (name : String) (op : Value → Value → Except Failure Value) :
    List Value → Except Failure Value
  | [] => .error ⟨.arityMismatch ("at least 1 for " ++ name) 0, none⟩
  | first :: rest => rest.foldlM op first

end Value

end DialogueEngine
