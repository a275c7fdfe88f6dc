import DialogueEngine.Proofs.Engine.Atomicity
import DialogueEngine.Proofs.Engine.Conduct
import DialogueEngine.Proofs.Engine.StepOutcome

/-!
# Engines that nobody locks

If no component locks the engine or has it step, an engine that is unlocked stays so, and a run is
never deferred: it halts or it fails. A failure never looks like a halt.
-/

namespace DialogueEngine

variable {σ : Type}

/-- An act neither locks the engine nor asks it for anything. -/
def Action.Open : Action σ → Prop
  | .perform .lock _ | .ask .. => False
  | .done _ | .perform .. | .react .. | .consult _ | .observe _ | .settings _ | .records _
  | .evaluate .. => True

theorem Control.locked_of_ret {c after : Control} (back : c.ret? = some after) :
    after.locked = c.locked := by
  rw [ret?] at back
  split at back
  · cases back
  · cases back
    rfl

namespace Engine

variable {e after : Engine σ}

/-- The engine is unlocked, and no component will lock it. -/
structure Open (e : Engine σ) : Prop where
  unlocked : e.control.locked = false
  components : e.Throughout Action.Open Set.univ

theorem Acts.unlocked {action next : Action σ} (acts : e.Acts action next after)
    (acting : action.Open) (unlocked : e.control.locked = false) :
    after.control.locked = false := by
  cases acts with
  | perform operation =>
    cases operation with
    | lock => exact acting.elim
    | reset => rfl
    | _ => exact unlocked
  | _ => exact unlocked

namespace Open

theorem settled (isOpen : e.Open) : e.settled.Open where
  unlocked := (Control.locked_settled e.control).trans isOpen.unlocked
  components := isOpen.components

theorem record (isOpen : e.Open) (instruction : Instruction) : (e.record instruction).Open where
  unlocked := by rw [control_record, isOpen.unlocked]
  components := isOpen.components.record instruction

theorem register {component : Component σ} (isOpen : e.Open) (name : String)
    (calls : ∀ args, (component args).Throughout Action.Open Set.univ) :
    (e.register name component).Open := by
  have registers : (Operation.register name component).Throughout Action.Open Set.univ :=
    fun args _ => calls args
  exact ⟨isOpen.unlocked, isOpen.components.perform registers⟩

theorem act {fuel : Nat} {action : Action σ} {result : Except Failure Pacing} (isOpen : e.Open)
    (acting : action.Throughout Action.Open Set.univ)
    (acted : Engine.act fuel action e = some (result, after)) : after.Open := by
  induction fuel generalizing action e with
  | zero => simp [Engine.act] at acted
  | succ fuel ih =>
    have asksNothing (request next) : action ≠ .ask request next := by
      rintro rfl
      exact acting.here
    rcases acts_of_act asksNothing acted with ⟨-, rfl⟩ | ⟨next, middle, acts, rest⟩
    · exact isOpen
    · have unlocked := acts.unlocked acting.here isOpen.unlocked
      obtain ⟨acting, components⟩ := isOpen.components.acts acting acts
      exact ih ⟨unlocked, components⟩ acting rest

/-- What completes an instruction leaves the engine open. -/
theorem execute {fuel : Nat} {instruction : Instruction} {pacing : Pacing} (isOpen : e.Open)
    (ran : Engine.execute fuel instruction e = some (.ok pacing, after)) : after.Open := by
  obtain ⟨unlocked, components⟩ := isOpen
  cases fuel with
  | zero => simp [Engine.execute] at ran
  | succ fuel =>
    cases executed_of_execute ran with
    | stored | assigned | jumped | branched | called => exact ⟨unlocked, components⟩
    | returned back => exact ⟨(Control.locked_of_ret back).trans unlocked, components⟩
    | performed found acted =>
      have moved : (e.steer Control.moveOn).Open := ⟨unlocked, components⟩
      exact moved.act (components _ _ (Set.mem_univ _) _ found) acted

theorem completes (isOpen : e.Open) (completes : Completes e after) : after.Open := by
  obtain ⟨instruction, pacing, -, -, fuel, ran⟩ := completes
  exact (isOpen.settled.record instruction).execute ran

/-- A run on an open engine halts or fails. -/
theorem run {result : Except Failure (Option StepOutcome)} (isOpen : e.Open)
    (answers : e.Answers .run result after) :
    (result = .ok (some .halted) ∧ after.halted = true) ∨ ∃ failure, result = .error failure := by
  obtain ⟨fuel, answered⟩ := answers
  obtain ⟨completed, course⟩ := requestCourse_of_answer answered
  have last : (completed.getLastD e).Open :=
    last_of_isChain (fun _ _ completes before => before.completes completes) course.isChain isOpen
  cases course with
  | run course =>
    obtain ⟨executed, stop⟩ := course.final
    cases stop with
    | deferred locked => cases last.unlocked.symm.trans locked
    | halted _ finished =>
      have alone := Control.resume?_eq_none_iff.mp (Control.resume?_settled finished)
      exact .inl ⟨rfl, Control.halted_iff.mpr ⟨finished, alone⟩⟩
    | exceeded | failed => exact .inr ⟨_, rfl⟩

end Open

end Engine

end DialogueEngine
