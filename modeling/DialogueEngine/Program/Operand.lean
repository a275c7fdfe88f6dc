import DialogueEngine.Value.Order
import DialogueEngine.Value.Text

/-!
# Operands

An operand is a literal or the call of a host function on operands, which the function receives
unevaluated.
-/

namespace DialogueEngine

inductive Operand where
  | literal (value : Value)
  | call (function : String) (arguments : List Operand)
deriving Inhabited

namespace Operand

mutual

/-- Literals are written in literal style, calls in brackets with the function in front. -/
def text : Operand → String
  | literal value => value.literalText
  | call function arguments => "(" ++ function ++ argumentTexts arguments ++ ")"

def argumentTexts : List Operand → String
  | [] => ""
  | argument :: rest => " " ++ text argument ++ argumentTexts rest

end

def isLiteral : Operand → Bool
  | literal _ => true
  | call .. => false

mutual

def decEq : (a b : Operand) → Decidable (a = b)
  | literal v, literal w => decidable_of_iff (v = w) (by simp)
  | call f as, call g bs =>
      have := decEqList as bs
      decidable_of_iff (f = g ∧ as = bs) (by simp)
  | literal _, call .. | call .., literal _ => isFalse (by simp)

def decEqList : (as bs : List Operand) → Decidable (as = bs)
  | [], [] => isTrue rfl
  | [], _ :: _ | _ :: _, [] => isFalse (by simp)
  | a :: as, b :: bs =>
      have := decEq a b
      have := decEqList as bs
      decidable_of_iff (a = b ∧ as = bs) (by simp)

end

instance : DecidableEq Operand := decEq

end Operand

end DialogueEngine
