import DialogueEngine.Script.Operator

/-!
# Expressions

The tree of an embedded expression: a literal, the value of a variable, or an operator applied to
expressions.
-/

namespace DialogueEngine.Script

inductive Node where
  | literal (value : Value)
  | reactive (name : String)
  | static (name : String)
  | call (operator : Operator) (args : List Node)
deriving Inhabited

/-- The deepest nesting of calls that is read. -/
def maxNesting : Nat := 128

namespace Node

mutual

/-- The greatest number of calls around one another. -/
def nesting : Node → Nat
  | literal _ | reactive _ | static _ => 0
  | call _ args => nestingList args + 1

def nestingList : List Node → Nat
  | [] => 0
  | node :: rest => max (nesting node) (nestingList rest)

end

end Node

end DialogueEngine.Script
