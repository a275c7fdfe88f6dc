import DialogueEngine.Value.Basic

/-!
# Failures

Why an operation failed, and where in a program it happened. The wording of every cause is in
`Cause.message`, that of a context in `Context.text`.
-/

namespace DialogueEngine

namespace Failure

/-- What went wrong. -/
inductive Cause where
  /-- An operation was handed a value of a kind that it does not accept. -/
  | typeMismatch (expected actual : Kind)
  | unknownComponent (name : String)
  | unknownFunction (name : String)
  | undeclaredReactive (name : String)
  /-- A `RETURN` found no return position. -/
  | returnWithoutCall
  /-- A conditional jump came to a value that is no position. -/
  | invalidJumpTarget (value : String)
  | arityMismatch (expected : String) (actual : Nat)
  | divisionByZero
  /-- An embedded expression is not well formed, at a column counted from one. -/
  | malformedExpression (problem : String) (column : Nat) (source : String)
  | embeddedUnavailable
  /-- A component or a function of the host reports a failure. -/
  | host (message : String)
  /-- A step went on for more instructions than the configuration allows. -/
  | burstExceeded (limit : Nat)
  | serialization (message : String)
  | io (message : String)
  | internal (message : String)
deriving DecidableEq

def Cause.message : Cause → String
  | typeMismatch expected actual =>
      "type mismatch: expected " ++ expected.name ++ ", got " ++ actual.name
  | unknownComponent name => "no component named " ++ name ++ " registered for this engine"
  | unknownFunction name => "no extern function named " ++ name ++ " registered for this engine"
  | undeclaredReactive name =>
      "no reactive variable named " ++ name ++ " declared for this engine"
  | returnWithoutCall => "cannot return because there is no call"
  | invalidJumpTarget value => "invalid jump target: " ++ value
  | arityMismatch expected actual =>
      "arity mismatch: expected " ++ expected ++ ", got " ++ toString actual
  | divisionByZero => "division by zero"
  | malformedExpression problem column _ =>
      "parse error at column " ++ toString column ++ ": " ++ problem
  | embeddedUnavailable => "embedded expressions are disabled for this engine"
  | host message => "host error: " ++ message
  | burstExceeded limit =>
      "limit exceeded: max instructions per step (" ++ toString limit ++ ") exceeded"
  | serialization message => "serialization error: " ++ message
  | io message => "io error: " ++ message
  | internal message => "internal error: " ++ message

/-- Where a failure happened: the instruction, its position, its operand and the programs that are
under way, the active one first. -/
structure Context where
  instruction : Option String := none
  position : Option Nat := none
  operand : Option String := none
  stack : List String := []
deriving DecidableEq, Inhabited

namespace Context

def placeText (context : Context) : String :=
  let position := context.position.map fun position => "at position " ++ toString position
  match context.instruction, position with
  | some instruction, some position => "in " ++ instruction ++ " " ++ position
  | some instruction, none => "in " ++ instruction
  | none, some position => position
  | none, none => ""

def text (context : Context) : String :=
  let operand := context.operand.elim "" (" evaluating " ++ ·)
  let frames := context.stack.map fun frame => "  in " ++ frame ++ "\n"
  let stack := if frames.isEmpty then "" else "\n" ++ String.join frames
  context.placeText ++ operand ++ stack

end Context

end Failure

structure Failure where
  cause : Failure.Cause
  context : Option Failure.Context := none
deriving DecidableEq

namespace Failure

def message (failure : Failure) : String := failure.cause.message

/-- Adds a context, unless there is one: it comes from nearer to the cause. -/
def within (failure : Failure) (context : Context) : Failure :=
  { failure with context := failure.context.or (some context) }

@[simp]
theorem cause_within (failure : Failure) (context : Context) :
    (failure.within context).cause = failure.cause := rfl

end Failure

end DialogueEngine
