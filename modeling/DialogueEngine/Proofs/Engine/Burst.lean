import DialogueEngine.Proofs.Engine.Request
import DialogueEngine.Proofs.Engine.Stability

/-!
# Bursts and single steps

Without a limit on its length, a step does what single steps do, asked for as often as it completes
instructions: each of them leaves the engine as the step has it after that instruction. Where the
step halts, is deferred or fails, one more single step does the same; a run likewise.
-/

namespace DialogueEngine.Engine

variable {σ : Type} {e after : Engine σ} {completed : List (Engine σ)}

/-- A single step completes one instruction. -/
def StepsTo (e after : Engine σ) : Prop :=
  Completes e after ∧ e.Answers .stepSingle (.ok (some .stepped)) after

/-- What a single step does after the last completed instruction of a burst, depending on how the
burst ends. A deferred step notes its mode, and nothing else tells the two apart. -/
def SingleStepAgrees (last : Engine σ) (result : Except Failure StepOutcome)
    (after : Engine σ) : Prop :=
  match result with
  | .ok .paused => last = after
  | .ok .halted => last.Answers .stepSingle (.ok (some .halted)) after
  | .ok .deferred => ∃ single, last.Answers .stepSingle (.ok (some .deferred)) single ∧
      after = single.steer (·.defer .burst) ∧ single = after.steer (·.defer .single)
  | .ok .stepped => False
  | .error failure => last.Answers .stepSingle (.error failure) after

theorem reachedLimit?_of_unlimited {config : Config} (unlimited : config.maxBurst = none)
    (executed : Nat) : config.reachedLimit? executed = none := by
  simp [Config.reachedLimit?, unlimited]

theorem Completes.config_eq (completes : Completes e after) : after.config = e.config := by
  obtain ⟨instruction, pacing, -, -, fuel, ran⟩ := completes
  have executed := stable_config.execute ran
  have recorded := stable_config.record e.settled instruction
  exact executed.trans recorded

theorem Completes.stepsTo (within : e.config.reachedLimit? 0 = none)
    (completes : Completes e after) : StepsTo e after := by
  refine ⟨completes, ?_⟩
  obtain ⟨instruction, pacing, executes⟩ := completes
  exact (Course.stepped within executes).answers

theorem config_getLastD (chain : List.IsChain Completes (e :: completed)) :
    (completed.getLastD e).config = e.config := by
  have keeps (before after : Engine σ) (completes : Completes before after)
      (same : before.config = e.config) : after.config = e.config :=
    completes.config_eq.trans same
  exact last_of_isChain keeps chain rfl

/-- Whatever completes instructions, single steps complete them, if the limit allows for any. -/
theorem stepsTo_of_isChain (within : e.config.reachedLimit? 0 = none)
    (chain : List.IsChain Completes (e :: completed)) : List.IsChain StepsTo (e :: completed) := by
  induction completed generalizing e with
  | nil => exact List.isChain_singleton _
  | cons middle completed ih =>
    obtain ⟨completes, rest⟩ := List.isChain_cons_cons.mp chain
    exact List.isChain_cons_cons.mpr
      ⟨completes.stepsTo within, ih (by rw [completes.config_eq, within]) rest⟩

theorem Stop.singleStepAgrees {executed : Nat} {result : Except Failure StepOutcome}
    (unlimited : e.config.maxBurst = none) (stop : Stop .burst executed e result after) :
    SingleStepAgrees e result after := by
  cases stop with
  | deferred locked =>
    exact ⟨_, (Course.ended (.deferred locked)).answers, rfl, rfl⟩
  | halted unlocked finished => exact (Course.ended (.halted unlocked finished)).answers
  | exceeded _ _ reached =>
    rw [reachedLimit?_of_unlimited unlimited] at reached
    contradiction
  | failed _ executes =>
    exact (Course.ended (.failed (reachedLimit?_of_unlimited unlimited 0) executes)).answers

theorem Course.singleStepAgrees {executed : Nat} {result : Except Failure StepOutcome}
    (unlimited : e.config.maxBurst = none)
    (course : Course .burst executed e completed result after) :
    List.IsChain StepsTo (e :: completed) ∧
      SingleStepAgrees (completed.getLastD e) result after := by
  have kept := config_getLastD course.isChain
  have steps := stepsTo_of_isChain (reachedLimit?_of_unlimited unlimited 0) course.isChain
  refine ⟨steps, ?_⟩
  rcases course.final_of_burst with ⟨paused, last⟩ | stop
  · rw [paused]
    exact last
  · exact stop.singleStepAgrees (by rw [kept, unlimited])

theorem RunCourse.singleStepAgrees {result : Except Failure StepOutcome}
    (unlimited : e.config.maxBurst = none) (course : RunCourse e completed result after) :
    List.IsChain StepsTo (e :: completed) ∧
      SingleStepAgrees (completed.getLastD e) result after ∧ result ≠ .ok .paused := by
  have kept := config_getLastD course.isChain
  have steps := stepsTo_of_isChain (reachedLimit?_of_unlimited unlimited 0) course.isChain
  obtain ⟨executed, stop⟩ := course.final
  refine ⟨steps, stop.singleStepAgrees (by rw [kept, unlimited]), ?_⟩
  rintro rfl
  cases stop

/-- A burst is a sequence of single steps, and so is a run. -/
theorem singleSteps_of_burst (unlimited : e.config.maxBurst = none) :
    (∀ result after, e.Answers .step result after →
      ∃ completed outcome, result = outcome.map some ∧ Course .burst 0 e completed outcome after ∧
        List.IsChain StepsTo (e :: completed) ∧
        SingleStepAgrees (completed.getLastD e) outcome after) ∧
    ∀ result after, e.Answers .run result after →
      ∃ completed outcome, result = outcome.map some ∧ RunCourse e completed outcome after ∧
        List.IsChain StepsTo (e :: completed) ∧
        SingleStepAgrees (completed.getLastD e) outcome after ∧ outcome ≠ .ok .paused := by
  constructor
  · intro result after ⟨fuel, answered⟩
    obtain ⟨completed, course⟩ := requestCourse_of_answer answered
    cases course with
    | step course =>
      exact ⟨completed, _, rfl, course, course.singleStepAgrees unlimited⟩
  · intro result after ⟨fuel, answered⟩
    obtain ⟨completed, course⟩ := requestCourse_of_answer answered
    cases course with
    | run course => exact ⟨completed, _, rfl, course, course.singleStepAgrees unlimited⟩

/-- A component that locks the engine and asks for a pause. -/
def shutGate : Component Unit := fun _ => .perform .lock (.done (.ok .pause))

/-- An engine that calls the gate inside of a subroutine. -/
def atShutGate : Engine Unit :=
  ((Engine.new {} ()).perform (.register "gate" shutGate)).perform
    (.load [.call 1, .callComponent "gate" .empty])

theorem singleSteps_atShutGate :
    ∃ completed after, atShutGate.config.maxBurst = none ∧
      atShutGate.Answers .step (.ok (some .paused)) after ∧
      List.IsChain StepsTo (atShutGate :: completed) ∧ completed.getLastD atShutGate = after := by
  have unlimited : atShutGate.config.maxBurst = none := rfl
  have answered : atShutGate.Answers .step (.ok (some .paused)) _ := ⟨12, rfl⟩
  obtain ⟨completed, outcome, same, course, steps, agrees⟩ :=
    (singleSteps_of_burst unlimited).1 _ _ answered
  cases outcome with
  | error failure => cases same
  | ok outcome =>
    cases same
    exact ⟨completed, _, unlimited, answered, steps, agrees⟩

end DialogueEngine.Engine
