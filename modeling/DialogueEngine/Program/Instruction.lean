import DialogueEngine.Program.Arguments
import DialogueEngine.Program.Operand

/-!
# Instructions

The seven instructions of a program. An operand that is marked as embedded is the source text of an
expression and goes to the embedded evaluator; the others are evaluated as they stand.
-/

namespace DialogueEngine

inductive Instruction where
  | setStatic (name : String) (value : Operand) (embedded : Bool)
  | setReactive (name : String) (value : Operand) (embedded : Bool)
  | goto (target : UInt64)
  /-- Jumps to the position that the condition evaluates to. The target is carried for tools and
  never consulted. -/
  | condGoto (target : UInt64) (condition : Operand) (embedded : Bool)
  | call (target : UInt64)
  | ret
  | callComponent (name : String) (args : ComponentArgs)
deriving DecidableEq, Inhabited

namespace Instruction

def opcode : Instruction → String
  | setStatic .. => "SET_STATIC_VAR"
  | setReactive .. => "SET_REACTIVE_VAR"
  | goto _ => "GOTO"
  | condGoto .. => "COND_GOTO"
  | call _ => "CALL"
  | ret => "RETURN"
  | callComponent .. => "CALL_COMPONENT"

/-- The operand that the instruction evaluates. -/
def operand? : Instruction → Option Operand
  | setStatic _ value _ | setReactive _ value _ => some value
  | condGoto _ condition _ => some condition
  | _ => none

def embeddedMark (embedded : Bool) : String := if embedded then " (eval)" else ""

/-- The arguments are sorted by name before they are written. -/
def argumentTexts (args : ComponentArgs) : String :=
  String.join ((ComponentArgs.sortByName args.bindings).map fun entry =>
    " " ++ entry.1 ++ "=" ++ entry.2.literalText)

def assignmentText (opcode name : String) (value : Operand) (embedded : Bool) : String :=
  opcode ++ " " ++ name ++ " = " ++ value.text ++ embeddedMark embedded

def text : Instruction → String
  | i@(setStatic name value embedded) | i@(setReactive name value embedded) =>
      assignmentText i.opcode name value embedded
  | i@(goto target) | i@(call target) => i.opcode ++ " " ++ toString target.toNat
  | i@(condGoto _ condition embedded) =>
      i.opcode ++ " " ++ condition.text ++ embeddedMark embedded
  | i@ret => i.opcode
  | i@(callComponent name args) => i.opcode ++ " " ++ name ++ argumentTexts args

end Instruction

end DialogueEngine
