import DialogueEngine.Console.Transcript
import DialogueEngine.Text.Word

/-!
# Console texts

What the console shows of an engine. Failures are shown in red.
-/

namespace DialogueEngine

namespace Console

def unlines (lines : List String) : String := String.join (lines.map fun line => line ++ "\n")

def inRed (text : String) : String := "\x1b[31m" ++ text ++ "\x1b[0m"

def failureLine (message : String) : String := inRed ("Error: " ++ message)

def failureText (failure : Failure) : String :=
  failureLine failure.message ++ failure.context.elim "" fun context => "\n" ++ context.text

def outcomeText (position : Nat) : StepOutcome → String
  | .halted => "-- halted"
  | .paused => "-- paused at " ++ toString position
  | .stepped => "-- stepped to " ++ toString position
  | .deferred => "-- deferred: engine is locked"

variable {σ : Type}

/-- All variables, the static ones first. -/
def variablesText (scope : Scope) : String :=
  let lines (kind : String) (table : NameTable Value) : List String :=
    table.entries.map fun entry => kind ++ " " ++ entry.1 ++ " = " ++ entry.2.plainText
  let text := unlines (lines "static  " scope.statics ++ lines "reactive" scope.reactives)
  Text.trimEnd (if text.isEmpty then "no variables" else text)

/-- The suspended programs, numbered from the outermost one. -/
def suspendedLines : List Continuation → List String
  | [] => []
  | s :: outer =>
      ("  [" ++ toString outer.length ++ "] resumes at " ++ toString s.position ++ " of "
        ++ toString s.program.length) :: suspendedLines outer

def lockLine (c : Control) : List String :=
  if c.locked then ["locked" ++ if c.pending.isSome then " (step pending)" else ""] else []

/-- Where the engine stands, from the next instruction outwards. -/
def stackText (c : Control) : String :=
  let place := "position " ++ toString c.position ++ " of " ++ toString c.program.length
    ++ " (depth " ++ toString c.depth ++ ")"
  let next := "next: " ++ c.instruction?.elim "<end of program>" Instruction.text
  let calls := "calls: " ++ View.positionList c.callStack.reverse
  "\n".intercalate ([place, next, calls] ++ suspendedLines c.continuations ++ lockLine c)

def traceText (e : Engine σ) (count : Nat) : String :=
  if e.config.traceEnabled then
    let records := e.trace.recent count
    if records.isEmpty then "trace is empty"
    else "\n".intercalate (records.map TraceRecord.text)
  else "tracing is disabled (start with --trace)"

def helpText : String :=
  "\n".intercalate
    ["step   (s)   run until a component pauses or the program halts",
      "next   (n)   execute a single instruction",
      "run    (r)   run to completion, passing through pauses",
      "unlock       release the lock and replay a deferred step",
      "lock         block stepping until unlock",
      "reset        rewind to the start of the root program",
      "vars         show static and reactive variables",
      "stack        show position, call stack, and continuations",
      "list   (l)   show the active program",
      "trace [N]    show the last N executed instructions (default 10)",
      "help   (h)   show this help",
      "quit   (q)   leave the console"]

end Console

end DialogueEngine
