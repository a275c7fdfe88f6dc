import DialogueEngine.CommandLine.Session
import DialogueEngine.Proofs.Console.Prelude
import DialogueEngine.Proofs.Console.Session
import DialogueEngine.Proofs.Engine.Openness
import DialogueEngine.Proofs.ProgramFile.RoundTrip
import Mathlib

/-!
# Batch mode

In batch mode a program is run once, and whether that has succeeded is inferred afterwards from
where the engine stands. This is the truth: a run that fails leaves the engine at an instruction,
and since nobody locks it, a run that does not fail has halted.
-/

namespace DialogueEngine

open Console
open MessagePack (Item)

variable {τ : Type}

/-- Writers do nothing but write. -/
theorem Stage.open_writer (name : String) (pacing : Pacing) (args : ComponentArgs) :
    (writer name pacing args : Action (Stage τ)).Throughout Action.Open Set.univ := by
  rw [writer_eq]
  cases (args.find? "text").bind Value.asString? with
  | none => trivial
  | some text => exact ⟨trivial, trivial⟩

theorem Engine.Open.withWriters {e : Engine (Stage τ)} (isOpen : e.Open) : e.withWriters.Open :=
  (isOpen.register "say" (Stage.open_writer "say" .pause)).register "log"
    (Stage.open_writer "log" .proceed)

namespace CommandLine

/-! ## The engine of a session -/

section Engine

variable (options : Options) (program : Program)

end Engine

/-! ## Runs -/

section Run

variable {options : Options} {program : Program} {arguments : List String} {fuel : Nat}
  {input path : String} {storage left : Storage} {outcome : Outcome}
  {result : Except Failure (Option StepOutcome)} {e after : Engine (Stage Unit)}

end Run

end CommandLine

end DialogueEngine
