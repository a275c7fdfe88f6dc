import DialogueEngine.Proofs.Console.Staging
import DialogueEngine.Proofs.Prelude.ReadOnly

/-!
# The prelude on a stage

The functions of the prelude only read. So they take no notice of the host, whatever it keeps, and
an engine that has them is on a stage with the console's components.
-/

namespace DialogueEngine

variable {σ τ : Type}

theorem Computation.ReadOnly.overlooks {computation : Computation σ}
    (reads : computation.ReadOnly) (change : σ → σ) : computation.Overlooks change Eq := by
  induction computation with
  | done result => trivial
  | evaluate operand next ih => exact fun result => ih result (reads result)
  | react reaction next => exact reads.elim
  | consult next => exact reads.elim
  | observe next ih =>
    exact ⟨fun outlook other same => by rw [same], fun outlook => ih outlook (reads outlook)⟩

namespace Engine

end Engine

end DialogueEngine
