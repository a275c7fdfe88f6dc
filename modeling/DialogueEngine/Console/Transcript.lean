import DialogueEngine.Engine.Basic

/-!
# Transcripts

A transcript collects the lines that the components `say` and `log` write. It is part of the state
of a host, beside whatever else the host keeps.
-/

namespace DialogueEngine

/-- Lines that have been written and not yet taken. -/
structure Transcript where
  newestFirst : List String := []
deriving DecidableEq, Inhabited

namespace Transcript

def lines (transcript : Transcript) : List String := transcript.newestFirst.reverse

def push (transcript : Transcript) (line : String) : Transcript := ⟨line :: transcript.newestFirst⟩

def size (transcript : Transcript) : Nat := transcript.newestFirst.length

@[simp]
theorem lines_push (transcript : Transcript) (line : String) :
    (transcript.push line).lines = transcript.lines ++ [line] := by
  simp [lines, push]

end Transcript

/-- The state of a host that keeps a transcript. -/
structure Stage (τ : Type) where
  transcript : Transcript := {}
  host : τ

namespace Stage

variable {τ : Type}

def write (stage : Stage τ) (line : String) : Stage τ :=
  { stage with transcript := stage.transcript.push line }

/-- A component that writes its argument `text` to the transcript. -/
def writer (name : String) (pacing : Pacing) : Component (Stage τ) := fun args =>
  match (args.find? "text").bind Value.asString? with
  | some text => .react (.modify (·.write text) .done) (.done (.ok pacing))
  | none => .done (.error ⟨.host (name ++ " needs a string `text` argument"), none⟩)

end Stage

/-- Registers `say`, which pauses the step, and `log`, which does not. -/
def Engine.withWriters {τ : Type} (e : Engine (Stage τ)) : Engine (Stage τ) :=
  (e.register "say" (Stage.writer "say" .pause)).register "log" (Stage.writer "log" .proceed)

end DialogueEngine
