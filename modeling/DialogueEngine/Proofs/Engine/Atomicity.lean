import DialogueEngine.Proofs.Engine.Reachability
import DialogueEngine.Proofs.Engine.Request

/-!
# Failing steps

A step, a run or the replay of a deferred step that fails leaves the engine at the instruction that
failed, with program, position and stacks as they were when that instruction was about to begin,
unlocked and with nothing pending. What a failing component has loaded, called or locked is undone.
-/

namespace DialogueEngine.Engine

variable {σ : Type} {e before after : Engine σ} {completed : List (Engine σ)}

/-- An instruction fails, by itself or because it is one too many. -/
inductive Refuses (before : Engine σ) (instruction : Instruction) : Failure → Engine σ → Prop where
  | exceeded {limit : Nat} (limited : before.config.maxBurst = some limit) :
      Refuses before instruction
        (Failure.within ⟨.burstExceeded limit, none⟩ { stack := before.control.frames }) before
  | failed {fuel : Nat} {failure : Failure} {after : Engine σ}
      (ran : execute fuel instruction (before.record instruction) = some (.error failure, after)) :
      Refuses before instruction
        (failure.within (after.control.contextOf instruction before.control.position)) after

theorem Refuses.control_eq {instruction : Instruction} {failure : Failure}
    (refuses : before.Refuses instruction failure after) : after.control = before.control := by
  cases refuses with
  | exceeded => rfl
  | failed ran => rw [control_of_execute_error ran, control_record]

theorem maxBurst_of_reachedLimit {config : Config} {executed limit : Nat}
    (reached : config.reachedLimit? executed = some limit) : config.maxBurst = some limit :=
  (Option.filter_eq_some_iff.mp reached).1

/-- A step stops with a failure at the instruction that fails. -/
theorem Stop.refuses {mode : StepMode} {executed : Nat} {failure : Failure}
    (stop : Stop mode executed e (.error failure) after) :
    e.control.locked = false ∧ ∃ instruction,
      e.settled.control.instruction? = some instruction ∧
      e.settled.Refuses instruction failure after := by
  cases stop with
  | exceeded unlocked next reached =>
    have limited : e.settled.config.maxBurst = some _ := maxBurst_of_reachedLimit reached
    exact ⟨unlocked, _, next, .exceeded limited⟩
  | failed within executes =>
    obtain ⟨unlocked, next, fuel, ran⟩ := executes
    exact ⟨unlocked, _, next, .failed ran⟩

theorem RequestCourse.isChain {request : Request} {result : Except Failure (Option StepOutcome)}
    (course : RequestCourse request e completed result after) :
    List.IsChain Completes (start request e :: completed) := by
  cases course with
  | step course | stepSingle course | replayed _ course => exact course.isChain
  | run course => exact course.isChain
  | released => exact List.isChain_singleton _

theorem eq_error_of_map_some {result : Except Failure StepOutcome} {failure : Failure}
    (same : Except.error failure = result.map some) : result = .error failure := by
  cases result with
  | error other =>
    cases same
    rfl
  | ok outcome => cases same

/-- A request fails where a step of it stops. -/
theorem RequestCourse.stop_of_error {request : Request} {failure : Failure}
    (course : RequestCourse request e completed (.error failure) after) :
    ∃ mode executed,
      Stop mode executed (completed.getLastD (start request e)) (.error failure) after := by
  generalize same : Except.error failure = outcome at course
  cases course with
  | step course | stepSingle course | replayed _ course =>
    cases eq_error_of_map_some same
    rcases course.final with ⟨⟨stepped, -⟩ | ⟨paused, -⟩, -⟩ | stop
    · cases stepped
    · cases paused
    · exact ⟨_, _, stop⟩
  | run course =>
    cases eq_error_of_map_some same
    obtain ⟨executed, stop⟩ := course.final
    exact ⟨_, executed, stop⟩
  | released => cases same

theorem consistent_of_isChain (chain : List.IsChain Completes (e :: completed))
    (consistent : e.control.Consistent) : (completed.getLastD e).control.Consistent := by
  have keeps (before after : Engine σ) (completes : Completes before after)
      (consistent : before.control.Consistent) : after.control.Consistent := by
    obtain ⟨instruction, pacing, executes⟩ := completes
    exact executes.consistent consistent
  exact last_of_isChain keeps chain consistent

theorem consistent_start (request : Request) (consistent : e.control.Consistent) :
    (start request e).control.Consistent := by
  cases request with
  | unlock =>
    intro pending
    simp [start, steer, Control.unlock] at pending
  | _ => exact consistent

/-- A request has failed at an instruction and has left the engine as it was before that, after the
instructions that the request completed and without finished sub-programs. -/
structure FailedAt (request : Request) (e : Engine σ) (completed : List (Engine σ))
    (before : Engine σ) (instruction : Instruction) (failure : Failure) (after : Engine σ) :
    Prop where
  course : RequestCourse request e completed (.error failure) after
  chain : List.IsChain Completes (start request e :: completed)
  before_eq : before = (completed.getLastD (start request e)).settled
  next : before.control.instruction? = some instruction
  refuses : before.Refuses instruction failure after
  restored : after.control = before.control
  current : after.control.instruction? = some instruction
  running : after.halted = false
  unlocked : after.control.locked = false
  unpended : after.control.pending = none

/-- Failing is atomic: on every engine that can be reached, with whatever components. -/
theorem failedAt_of_answer_error {fuel : Nat} {request : Request} {failure : Failure}
    (reachable : e.Reachable) (failed : e.answer fuel request = some (.error failure, after)) :
    ∃ completed before instruction,
      FailedAt request e completed before instruction failure after := by
  obtain ⟨completed, course⟩ := requestCourse_of_answer failed
  have chain := course.isChain
  obtain ⟨mode, executed, stop⟩ := course.stop_of_error
  obtain ⟨unlocked, instruction, next, refuses⟩ := stop.refuses
  have restored := refuses.control_eq
  have consistent := consistent_of_isChain chain (consistent_start request reachable.consistent)
  have current : after.control.instruction? = some instruction := by rw [restored, next]
  refine ⟨completed, _, instruction, course, chain, rfl, next, refuses, restored, current,
    ?_, ?_, ?_⟩
  · simp [halted, Control.halted, current]
  · rw [restored, control_settled, Control.locked_settled, unlocked]
  · rw [restored, control_settled, Control.pending_settled, ← Option.not_isSome_iff_eq_none]
    intro pending
    have locked := consistent pending
    rw [unlocked] at locked
    contradiction

/-- A component that loads a sub-program, locks the engine, asks for a step and then fails. -/
def jammedGate : Component Unit := fun _ =>
  .perform (.loadSub []) (.perform .lock
    (.ask .step fun _ => .done (.error ⟨.host "gate jammed", none⟩)))

/-- An engine that calls the gate inside of a subroutine. -/
def atJammedGate : Engine Unit :=
  ((Engine.new {} ()).perform (.register "gate" jammedGate)).perform
    (.load [.call 1, .callComponent "gate" .empty])

theorem failedAt_jammedGate :
    ∃ completed before instruction failure after,
      atJammedGate.Reachable ∧ atJammedGate.answer 12 .run = some (.error failure, after) ∧
      FailedAt .run atJammedGate completed before instruction failure after := by
  have reachable : atJammedGate.Reachable := ((Reachable.new {} ()).perform _).perform _
  have failed : atJammedGate.answer 12 .run = some (.error ⟨.host "gate jammed", some _⟩, _) := rfl
  obtain ⟨completed, before, instruction, failedAt⟩ := failedAt_of_answer_error reachable failed
  exact ⟨completed, before, instruction, _, _, reachable, failed, failedAt⟩

end DialogueEngine.Engine
