import DialogueEngine.Proofs.Engine.Atomicity
import DialogueEngine.Proofs.Engine.Machine.Basic

/-!
# Where a failure happened

The context of a failure is made after the failing instruction has been undone, and only if what
the instruction raises has none yet. So it shows the instruction that is the next one again, and
the programs as they stand then; or, from further inside, what a nested step has found.
-/

namespace DialogueEngine

namespace Instruction

/-- The operand that an instruction evaluates, and whether that is embedded. -/
inductive Evaluates : Instruction → Operand → Bool → Prop where
  | setStatic (name : String) (operand : Operand) (embedded : Bool) :
      Evaluates (.setStatic name operand embedded) operand embedded
  | setReactive (name : String) (operand : Operand) (embedded : Bool) :
      Evaluates (.setReactive name operand embedded) operand embedded
  | condGoto (target : UInt64) (operand : Operand) (embedded : Bool) :
      Evaluates (.condGoto target operand embedded) operand embedded

end Instruction

namespace Engine

variable {σ : Type} {e before after : Engine σ} {instruction : Instruction}
  {failure raised : Failure} {fuel : Nat}

/-! ## What an instruction raises -/

end Engine

end DialogueEngine
