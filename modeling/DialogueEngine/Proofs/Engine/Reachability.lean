import DialogueEngine.Proofs.Engine.Course
import DialogueEngine.Proofs.Engine.Stability

/-!
# Reachable engines

The engines that a host or a component can come to see. A step that was asked for is pending only
while the engine is locked.
-/

namespace DialogueEngine

/-- A step is pending only under a lock. -/
def Control.Consistent (c : Control) : Prop := c.pending.isSome → c.locked = true

theorem Control.Move.consistent {c after : Control} (move : c.Move after) (before : c.Consistent) :
    after.Consistent := by
  cases move with
  | jump position => exact before
  | call target => exact before
  | ret back =>
    simp only [ret?] at back
    split at back
    · cases back
    · cases back
      exact before
  | resume resumed =>
    simp only [resume?] at resumed
    split at resumed
    · cases resumed
    · cases resumed
      exact before
  | defer mode locked =>
    intro _
    exact locked
  | unlock =>
    intro pending
    simp [Control.unlock] at pending

namespace Engine

variable {σ : Type}

theorem consistent_perform {e : Engine σ} (before : e.control.Consistent)
    (operation : Operation σ) : (e.perform operation).control.Consistent := by
  cases operation with
  | lock =>
    intro _
    rfl
  | reset =>
    intro pending
    simp [perform, steer, Control.reset] at pending
  | _ => exact before

/-- Consistency is kept by whatever an engine executes. -/
theorem stable_consistent :
    Stable fun e after : Engine σ => e.control.Consistent → after.control.Consistent where
  refl _ before := before
  trans first second before := second (first before)
  perform _ operation before := consistent_perform before operation
  world _ _ before := before
  record e instruction before := by
    rw [record]
    split <;> exact before
  move move before := move.consistent before
  rollback _ before := before

/-- The engines that come about when a host, or a component that is under way, performs operations,
lets reactions run, evaluates operands and asks for steps. -/
inductive Reachable : Engine σ → Prop where
  | new (config : Config) (host : σ) : Reachable (.new config host)
  | perform {e : Engine σ} (reachable : Reachable e) (operation : Operation σ) :
      Reachable (e.perform operation)
  | react {e : Engine σ} {fuel : Nat} {reaction : Reaction σ} {world : World σ}
      (reachable : Reachable e) (ran : reaction.run fuel e.world = some world) :
      Reachable { e with world }
  | evaluate {e : Engine σ} {fuel : Nat} {operand : Operand} {embedded : Bool}
      {result : Except Failure Value} {world : World σ} (reachable : Reachable e)
      (evaluated : e.evaluateOperand fuel operand embedded = some (result, world)) :
      Reachable { e with world }
  | answer {e after : Engine σ} {fuel : Nat} {request : Request}
      {result : Except Failure (Option StepOutcome)} (reachable : Reachable e)
      (answered : e.answer fuel request = some (result, after)) : Reachable after
  /-- In the middle of a step. -/
  | execute {e after : Engine σ} {instruction : Instruction} {result : Except Failure Pacing}
      (reachable : Reachable e) (executes : e.Executes instruction result after) : Reachable after
  /-- Where a component is called. -/
  | enter {e : Engine σ} {name : String} {args : ComponentArgs} (reachable : Reachable e)
      (unlocked : e.control.locked = false)
      (next : e.settled.control.instruction? = some (.callComponent name args)) :
      Reachable ((e.settled.record (.callComponent name args)).steer Control.moveOn)

theorem consistent_settled {e : Engine σ} (before : e.control.Consistent) :
    e.settled.control.Consistent := by
  intro pending
  rw [control_settled, Control.pending_settled] at pending
  rw [control_settled, Control.locked_settled]
  exact before pending

theorem Executes.consistent {e after : Engine σ} {instruction : Instruction}
    {result : Except Failure Pacing} (executes : e.Executes instruction result after)
    (before : e.control.Consistent) : after.control.Consistent := by
  obtain ⟨-, -, fuel, ran⟩ := executes
  have recorded := stable_consistent.record e.settled instruction (consistent_settled before)
  exact stable_consistent.execute ran recorded

theorem Reachable.consistent {e : Engine σ} (reachable : Reachable e) : e.control.Consistent := by
  induction reachable with
  | new config host =>
    intro pending
    simp [Engine.new] at pending
  | perform _ operation ih => exact consistent_perform ih operation
  | react _ _ ih | evaluate _ _ ih => exact ih
  | answer _ answered ih => exact stable_consistent.answer answered ih
  | execute _ executes ih => exact executes.consistent ih
  | @enter e name args _ _ _ ih =>
    have recorded := stable_consistent.record e.settled (.callComponent name args)
      (consistent_settled ih)
    exact stable_consistent.move (.jump _ _) recorded

end Engine

end DialogueEngine
