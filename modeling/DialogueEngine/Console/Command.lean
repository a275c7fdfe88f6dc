import DialogueEngine.Failure
import DialogueEngine.Number.Count
import DialogueEngine.Text.Word

/-!
# Console commands

A command is the first word of a line; `trace` looks at the second word too, and all further words
are ignored.
-/

namespace DialogueEngine

inductive Command where
  | blank
  | step
  | next
  | run
  | vars
  | stack
  | list
  | trace (count : Nat)
  | lock
  | unlock
  | reset
  | help
  | quit
  | unknown (word : String)
deriving DecidableEq

namespace Command

/-- The names that are offered for completion. -/
def keywords : List String :=
  ["step", "next", "run", "vars", "stack", "list", "trace", "lock", "unlock", "reset", "help",
    "quit"]

/-- How many trace records to show. -/
def traceCount (word : Option String) : Except Failure Nat :=
  match word with
  | none => .ok 10
  | some word =>
      match readCount? word with
      | some count => .ok count
      | none => .error ⟨.host ("expected a record count, got `" ++ word ++ "`"), none⟩

def ofWords : List String → Except Failure Command
  | [] => .ok blank
  | word :: rest =>
      match word with
      | "step" | "s" => .ok step
      | "next" | "n" => .ok next
      | "run" | "r" => .ok run
      | "vars" => .ok vars
      | "stack" => .ok stack
      | "list" | "l" => .ok list
      | "trace" => (traceCount rest.head?).map trace
      | "lock" => .ok lock
      | "unlock" => .ok unlock
      | "reset" => .ok reset
      | "help" | "h" | "?" => .ok help
      | "quit" | "exit" | "q" => .ok quit
      | word => .ok (unknown word)

def ofLine (line : String) : Except Failure Command := ofWords (Text.words line)

end Command

end DialogueEngine
