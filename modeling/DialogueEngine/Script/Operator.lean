import DialogueEngine.Value.Comparison
import DialogueEngine.Value.Property

/-!
# Operators

The operators of embedded expressions. `apply` gives their results on evaluated arguments; `and`
and `or` evaluate their arguments as needed and have no result of this form.
-/

namespace DialogueEngine.Script

inductive Operator where
  | add | sub | mul | div | rem | abs
  | bitAnd | bitOr | bitXor
  | lt | gt | le | ge | eq | ne
  | and | or | not
  | get
deriving DecidableEq

namespace Operator

def symbol : Operator → String
  | add => "+"
  | sub => "-"
  | mul => "*"
  | div => "/"
  | rem => "%"
  | abs => "ABS"
  | bitAnd => "&"
  | bitOr => "|"
  | bitXor => "^"
  | lt => "<"
  | gt => ">"
  | le => "<="
  | ge => ">="
  | eq => "=="
  | ne => "!="
  | and => "and"
  | or => "or"
  | not => "not"
  | get => "."

def all : List Operator :=
  [add, sub, mul, div, rem, abs, bitAnd, bitOr, bitXor, lt, gt, le, ge, eq, ne, and, or, not, get]

def ofSymbol? (symbol : String) : Option Operator :=
  all.find? fun operator => operator.symbol = symbol

theorem mem_all (operator : Operator) : operator ∈ all := by
  cases operator <;> decide

@[simp]
theorem ofSymbol?_symbol (operator : Operator) : ofSymbol? operator.symbol = some operator := by
  cases operator <;> decide

/-- An operator with exactly one argument. -/
def unary (name : String) (f : Value → Except Failure Value) : List Value → Except Failure Value
  | [a] => f a
  | values => .error ⟨.arityMismatch ("1 for " ++ name) values.length, none⟩

/-- An operator with exactly two arguments. -/
def binary (name : String) (f : Value → Value → Except Failure Value) :
    List Value → Except Failure Value
  | [a, b] => f a b
  | values => .error ⟨.arityMismatch ("2 for " ++ name) values.length, none⟩

def ordered (accepts : Ordering → Bool) (a b : Value) : Except Failure Value :=
  (a.comparison b).map fun ordering => .bool (accepts ordering)

/-- The result of an operator on evaluated arguments. -/
def apply (operator : Operator) : List Value → Except Failure Value :=
  let name := operator.symbol
  match operator with
  | add => Value.reduce name Value.add
  | sub => Value.reduce name Value.sub
  | mul => Value.reduce name Value.mul
  | div => Value.reduce name Value.div
  | rem => Value.reduce name Value.rem
  | abs => unary name Value.abs
  | bitAnd => Value.reduce name Value.bitAnd
  | bitOr => Value.reduce name Value.bitOr
  | bitXor => Value.reduce name Value.bitXor
  | lt => binary name (ordered Ordering.isLT)
  | gt => binary name (ordered Ordering.isGT)
  | le => binary name (ordered Ordering.isLE)
  | ge => binary name (ordered Ordering.isGE)
  | eq => binary name fun a b => .ok (.bool (a.equals b))
  | ne => binary name fun a b => .ok (.bool (!a.equals b))
  | not => unary name fun a => .ok (.bool (!a.isTruthy))
  | and | or => fun values => .ok (values.getLastD .nil)
  | get => fun
    | [] => .error ⟨.arityMismatch ("at least 1 for " ++ name) 0, none⟩
    | base :: keys => base.path keys

end Operator

end DialogueEngine.Script
