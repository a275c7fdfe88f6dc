import DialogueEngine.Prelude
import DialogueEngine.Proofs.Engine.Fuel

/-!
# Outcomes of host functions

The value that a host function computes, or the failure that it ends with. An outcome is reached
with some fuel, and so with all that suffices, and the world is left as it was.
-/

namespace DialogueEngine

theorem bind_eq_ok_iff {α β : Type} {x : Except Failure α} {f : α → Except Failure β} {b : β} :
    x >>= f = .ok b ↔ ∃ a, x = .ok a ∧ f a = .ok b := by
  cases x with
  | error failure => exact ⟨nofun, fun ⟨_, same, _⟩ => nomatch same⟩
  | ok a =>
    constructor
    · intro goesOn
      exact ⟨a, rfl, goesOn⟩
    · rintro ⟨_, ⟨⟩, goesOn⟩
      exact goesOn

namespace Engine

variable {σ : Type} {e : Engine σ}

/-- Two outcomes are the same value, or both are failures. -/
def Alike (a b : Except Failure Value) : Prop := ∀ value, a = .ok value ↔ b = .ok value

theorem alike_refl (a : Except Failure Value) : Alike a a := fun _ => Iff.rfl

theorem Alike.bind {a b : Except Failure Value} {f g : Value → Except Failure Value}
    (alike : Alike a b) (goesOn : ∀ value, Alike (f value) (g value)) :
    Alike (a >>= f) (b >>= g) := by
  intro value
  rw [bind_eq_ok_iff, bind_eq_ok_iff]
  exact exists_congr fun first => and_congr (alike first) (goesOn first value)

def Evaluates (e : Engine σ) (operand : Operand) (outcome : Except Failure Value) : Prop :=
  ∃ fuel result, e.evaluate fuel operand e.world = some (result, e.world) ∧ Alike result outcome

/-- Evaluation ends with a result. -/
def Yields (e : Engine σ) (operand : Operand) (result : Except Failure Value) : Prop :=
  ∃ fuel, e.evaluate fuel operand e.world = some (result, e.world)

def Concludes (e : Engine σ) (computation : Computation σ) (result : Except Failure Value) : Prop :=
  ∃ fuel, e.compute fuel computation e.world = some (result, e.world)

theorem yields_literal (value : Value) : e.Yields (.literal value) (.ok value) := ⟨1, rfl⟩

theorem Concludes.yields {name : String} {args : List Operand} {function : HostFunction σ}
    {result : Except Failure Value} (bound : e.functions.find? name = some function)
    (concludes : e.Concludes (function args) result) : e.Yields (.call name args) result := by
  obtain ⟨fuel, computed⟩ := concludes
  refine ⟨fuel + 1, ?_⟩
  rw [evaluate, bound]
  exact computed

namespace Concludes

theorem done (result : Except Failure Value) : e.Concludes (.done result) result := ⟨1, rfl⟩

theorem fail (failure : Failure) : e.Concludes (Computation.fail failure) (.error failure) :=
  done _

theorem observe {next : Outlook → Computation σ} {result : Except Failure Value}
    (concludes : e.Concludes (next e.outlook) result) : e.Concludes (.observe next) result := by
  obtain ⟨fuel, computed⟩ := concludes
  exact ⟨fuel + 1, computed⟩

theorem evaluate {operand : Operand} {result outcome : Except Failure Value}
    {next : Except Failure Value → Computation σ} (yields : e.Yields operand result)
    (concludes : e.Concludes (next result) outcome) :
    e.Concludes (.evaluate operand next) outcome := by
  obtain ⟨fuel, evaluated⟩ := yields
  obtain ⟨more, computed⟩ := concludes
  refine ⟨max fuel more + 1, ?_⟩
  rw [compute, evaluate_mono (Nat.le_max_left fuel more) evaluated]
  exact compute_mono (Nat.le_max_right fuel more) computed

/-- The value of an operand is handed on, and its failure is the outcome. -/
theorem value {operand : Operand} {result : Except Failure Value} {next : Value → Computation σ}
    {rest : Value → Except Failure Value} (yields : e.Yields operand result)
    (goesOn : ∀ v, e.Concludes (next v) (rest v)) :
    e.Concludes (Computation.value operand next) (result >>= rest) := by
  cases result with
  | ok v => exact evaluate yields (goesOn v)
  | error failure => exact evaluate yields (fail failure)

end Concludes

end Engine

end DialogueEngine
