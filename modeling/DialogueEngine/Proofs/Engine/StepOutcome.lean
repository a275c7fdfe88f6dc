import DialogueEngine.Proofs.Engine.Request

/-!
# What the outcome of a step tells

An engine that has halted is unlocked, and stays as it is until somebody does something to it. A
step that is deferred is noted with its mode, a pause is one that a component has asked for, and
what has stepped has completed one instruction. No component that is called meanwhile can make an
outcome tell anything else.
-/

namespace DialogueEngine

namespace Control

theorem halted_iff {c : Control} :
    c.halted = true ↔ c.instruction? = none ∧ c.continuations = [] := by
  simp [halted]

theorem resume?_eq_none_iff {c : Control} : c.resume? = none ↔ c.continuations = [] := by
  cases suspended : c.continuations with
  | nil => simp [resume?, suspended]
  | cons s rest => simp [c.resume?_of_cons suspended]

end Control

namespace Engine

variable {σ : Type} {e after : Engine σ} {completed : List (Engine σ)}

/-- The mode in which a request steps, if it does. Unlocking takes that of the step that was put
off. -/
def mode? (e : Engine σ) : Request → Option StepMode
  | .step | .run => some .burst
  | .stepSingle => some .single
  | .unlock => e.control.pending

/-- The next instruction calls a component, and that asks for a pause. -/
def AsksForPause (e after : Engine σ) : Prop :=
  ∃ name args component fuel,
    e.settled.control.instruction? = some (.callComponent name args) ∧
    e.components.find? name = some component ∧
    act fuel (component args) ((e.settled.record (.callComponent name args)).steer Control.moveOn) =
      some (.ok .pause, after)

/-- What an outcome tells about a request, the instructions that it has completed and the engine
that it leaves. -/
def Tells (e : Engine σ) (request : Request) (completed : List (Engine σ)) (after : Engine σ) :
    StepOutcome → Prop
  | .halted =>
      after.control.locked = false ∧ after.control.instruction? = none ∧
        after.control.continuations = [] ∧ after.halted = true ∧
        ∀ further ≠ Request.unlock, ∀ result last, after.Answers further result last ↔
          result = .ok (some .halted) ∧ last = after
  | .deferred =>
      after.control.locked = true ∧
        ∃ mode, e.mode? request = some mode ∧ after.control.pending = some mode
  | .paused =>
      request ≠ .run ∧ e.mode? request = some .burst ∧
        ∃ earlier, completed = earlier ++ [after] ∧
          (earlier.getLastD (start request e)).AsksForPause after
  | .stepped =>
      request ≠ .run ∧ e.mode? request = some .single ∧
        completed = [after] ∧ Completes (start request e) after

@[simp]
theorem components_record (e : Engine σ) (instruction : Instruction) :
    (e.record instruction).components = e.components := by
  rw [record]
  split <;> rfl

/-- Only a component can ask for a pause. -/
theorem Executes.asksForPause {instruction : Instruction}
    (executes : e.Executes instruction (.ok .pause) after) : e.AsksForPause after := by
  obtain ⟨-, next, fuel, ran⟩ := executes
  cases fuel with
  | zero => simp [execute] at ran
  | succ fuel =>
    cases executed_of_execute ran with
    | performed found acted =>
      rw [components_record] at found
      exact ⟨_, _, _, fuel, next, found, acted⟩

theorem Course.of_stepped {mode : StepMode} {executed : Nat}
    (course : Course mode executed e completed (.ok .stepped) after) (single : mode = .single) :
    completed = [after] ∧ Completes e after := by
  cases course with
  | ended stop => cases stop
  | stepped _ executes => exact ⟨rfl, _, _, executes⟩
  | onward => cases single

theorem Course.of_paused {mode : StepMode} {executed : Nat} {outcome : Except Failure StepOutcome}
    (course : Course mode executed e completed outcome after) (paused : outcome = .ok .paused) :
    ∃ earlier, completed = earlier ++ [after] ∧ (earlier.getLastD e).AsksForPause after := by
  induction course with
  | ended stop =>
    subst paused
    cases stop
  | stepped => cases paused
  | paused _ executes => exact ⟨[], rfl, executes.asksForPause⟩
  | @onward _ _ middle _ _ _ _ _ _ _ ih =>
    obtain ⟨earlier, rfl, asks⟩ := ih paused
    refine ⟨middle :: earlier, rfl, ?_⟩
    rwa [List.getLastD_cons]

theorem answers_of_halted {further : Request} (steps : further ≠ .unlock)
    (unlocked : e.control.locked = false) (halted : e.halted = true) :
    e.Answers further (.ok (some .halted)) e := by
  obtain ⟨finished, alone⟩ := Control.halted_iff.mp halted
  have last := Control.resume?_eq_none_iff.mpr alone
  refine ⟨3, ?_⟩
  cases further with
  | unlock => exact absurd rfl steps
  | step | stepSingle | run =>
    simp [answer, runThrough, advance, unlocked, finished, last, Except.map]

theorem answers_iff_of_halted {further : Request} (steps : further ≠ .unlock)
    (unlocked : e.control.locked = false) (halted : e.halted = true)
    {result : Except Failure (Option StepOutcome)} :
    e.Answers further result after ↔ result = .ok (some .halted) ∧ after = e := by
  have answers := answers_of_halted steps unlocked halted
  constructor
  · intro other
    exact other.unique answers
  · rintro ⟨rfl, rfl⟩
    exact answers

theorem Stop.tells {mode : StepMode} {executed : Nat} {last : Engine σ} {request : Request}
    {outcome : StepOutcome} (stop : Stop mode executed last (.ok outcome) after)
    (inMode : e.mode? request = some mode) : e.Tells request completed after outcome := by
  cases stop with
  | deferred locked => exact ⟨locked, mode, inMode, rfl⟩
  | halted unlocked finished =>
    have alone := Control.resume?_eq_none_iff.mp (Control.resume?_settled finished)
    have halted := Control.halted_iff.mpr ⟨finished, alone⟩
    rw [← Control.locked_settled] at unlocked
    exact ⟨unlocked, finished, alone, halted, fun _ steps _ _ =>
      answers_iff_of_halted steps unlocked halted⟩

theorem Course.tells {mode : StepMode} {request : Request} {outcome : StepOutcome}
    (course : Course mode 0 (start request e) completed (.ok outcome) after)
    (inMode : e.mode? request = some mode) (noRun : request ≠ .run) :
    e.Tells request completed after outcome := by
  rcases course.final with ⟨⟨stepped, single⟩ | ⟨paused, burst⟩, -⟩ | stop
  · cases stepped
    exact ⟨noRun, single ▸ inMode, course.of_stepped single⟩
  · cases paused
    exact ⟨noRun, burst ▸ inMode, course.of_paused rfl⟩
  · exact stop.tells inMode

theorem eq_ok_of_map_some {result : Except Failure StepOutcome} {outcome : StepOutcome}
    (same : Except.ok (some outcome) = result.map some) : result = .ok outcome := by
  cases result with
  | error failure => cases same
  | ok other =>
    cases same
    rfl

theorem RequestCourse.tells {request : Request} {outcome : StepOutcome}
    (course : RequestCourse request e completed (.ok (some outcome)) after) :
    e.Tells request completed after outcome := by
  generalize same : Except.ok (some outcome) = result at course
  cases course with
  | step course | stepSingle course =>
    cases eq_ok_of_map_some same
    exact course.tells rfl nofun
  | replayed pending course =>
    cases eq_ok_of_map_some same
    exact course.tells pending nofun
  | run course =>
    cases eq_ok_of_map_some same
    obtain ⟨executed, stop⟩ := course.final
    exact stop.tells rfl
  | released => cases same

/-- Whatever components do meanwhile, the outcome of a request tells how the engine is left; and a
step on an engine that is unlocked and has halted halts. -/
theorem outcome_tells (e : Engine σ) :
    (∀ request outcome after, e.Answers request (.ok (some outcome)) after →
      ∃ completed, RequestCourse request e completed (.ok (some outcome)) after ∧
        e.Tells request completed after outcome) ∧
    (e.control.locked = false → e.halted = true →
      ∀ result after, e.Answers .step result after ↔ result = .ok (some .halted) ∧ after = e) := by
  constructor
  · intro request outcome after ⟨fuel, answered⟩
    obtain ⟨completed, course⟩ := requestCourse_of_answer answered
    exact ⟨completed, course, course.tells⟩
  · intro unlocked halted result after
    have steps : Request.step ≠ .unlock := nofun
    exact answers_iff_of_halted steps unlocked halted

/-- A component that has the next instruction executed, and then asks for a pause. -/
def usher : Component Unit := fun _ => .ask .stepSingle fun _ => .done (.ok .pause)

def atUsher : Engine Unit :=
  ((Engine.new {} ()).perform (.register "usher" usher)).perform
    (.load [.callComponent "usher" .empty, .goto 2])

theorem outcome_tells_atUsher :
    ∃ completed after, atUsher.Answers .step (.ok (some .paused)) after ∧
      atUsher.Tells .step completed after .paused ∧
      after.control.locked = false ∧ after.halted = true ∧
      after.Answers .step (.ok (some .halted)) after := by
  have paused : atUsher.Answers .step (.ok (some .paused)) (atUsher.steer (·.jump 2)) := ⟨12, rfl⟩
  obtain ⟨completed, -, tells⟩ := (outcome_tells atUsher).1 _ _ _ paused
  have unlocked : (atUsher.steer (·.jump 2)).control.locked = false := rfl
  have halted : (atUsher.steer (·.jump 2)).halted = true := rfl
  have halts := ((outcome_tells (atUsher.steer (·.jump 2))).2 unlocked halted _ _).mpr ⟨rfl, rfl⟩
  exact ⟨completed, _, paused, tells, unlocked, halted, halts⟩

end Engine

end DialogueEngine
