import DialogueEngine.Engine.Control
import DialogueEngine.Variables.Scope

/-!
# Views

What the host sees of an engine, apart from its configuration and its trace.
-/

namespace DialogueEngine

structure View where
  control : Control
  scope : Scope
  /-- How many subscribers each reactive variable has. -/
  subscriberCounts : NameTable Nat
  components : List String
  functions : List String
  hasEvaluator : Bool

namespace View

/-- Names as a set of literals. -/
def nameSet (names : List String) : String :=
  "\x7b" ++ Value.commaSeparated (names.map Text.quote) ++ "\x7d"

/-- Positions as a list. -/
def positionList (positions : List Nat) : String :=
  "[" ++ Value.commaSeparated (positions.map toString) ++ "]"

def boolText (b : Bool) : String := if b then "true" else "false"

/-- One line about the engine. -/
def summary (view : View) : String :=
  let c := view.control
  "Engine \x7b position: " ++ toString c.position
    ++ ", program_len: " ++ toString c.program.length
    ++ ", call_stack: " ++ positionList c.callStack.reverse
    ++ ", continuations: " ++ toString c.depth
    ++ ", locked: " ++ boolText c.locked
    ++ ", components: " ++ nameSet view.components
    ++ ", externs: " ++ toString view.functions.length ++ ", .. \x7d"

/-- One line about a reactive variable. -/
def reactiveSummary? (view : View) (name : String) : Option String := do
  let value ← view.scope.reactive? name
  let count ← view.subscriberCounts.find? name
  return "ReactiveVariable \x7b value: " ++ value.literalText
    ++ ", subscribers: " ++ toString count ++ " \x7d"

end View

end DialogueEngine
