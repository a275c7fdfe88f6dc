import DialogueEngine.Proofs.Engine.Course

/-!
# The course of a request

A run is a sequence of steps that pause and one that does not; unlocking makes up for the step that
was asked for last. Both complete instructions one after the other and then stop where the last of
them has left the engine.
-/

namespace DialogueEngine.Engine

variable {σ : Type} {e after : Engine σ} {completed : List (Engine σ)}

/-- What is requested is done, with some fuel, and so with all that suffices. -/
def Answers (e : Engine σ) (request : Request) (result : Except Failure (Option StepOutcome))
    (after : Engine σ) : Prop :=
  ∃ fuel, e.answer fuel request = some (result, after)

/-- No request is answered in two ways. -/
theorem Answers.unique {request : Request} {result other : Except Failure (Option StepOutcome)}
    {last : Engine σ} (first : e.Answers request result after)
    (second : e.Answers request other last) : result = other ∧ after = last := by
  obtain ⟨fuel, h⟩ := first
  obtain ⟨more, k⟩ := second
  exact Prod.mk.inj (eq_of_fuel (answer · request e) answer_succ h k)

/-- How a run goes: the engines after the instructions that it completes, its result, and the
engine that it leaves. -/
inductive RunCourse :
    Engine σ → List (Engine σ) → Except Failure StepOutcome → Engine σ → Prop where
  | last {e after : Engine σ} {completed : List (Engine σ)} {result : Except Failure StepOutcome}
      (course : Course .burst 0 e completed result after) (unpaused : result ≠ .ok .paused) :
      RunCourse e completed result after
  | onward {e middle after : Engine σ} {completed more : List (Engine σ)}
      {result : Except Failure StepOutcome}
      (course : Course .burst 0 e completed (.ok .paused) middle)
      (rest : RunCourse middle more result after) : RunCourse e (completed ++ more) result after

/-- The engine that the instructions of a request start from. -/
def start : Request → Engine σ → Engine σ
  | .unlock, e => e.steer Control.unlock
  | _, e => e

/-- How an engine does what is requested: the engines after the instructions that it completes,
the result, and the engine that is left. -/
inductive RequestCourse : Request → Engine σ → List (Engine σ) →
    Except Failure (Option StepOutcome) → Engine σ → Prop where
  | step {e after : Engine σ} {completed : List (Engine σ)} {result : Except Failure StepOutcome}
      (course : Course .burst 0 e completed result after) :
      RequestCourse .step e completed (result.map some) after
  | stepSingle {e after : Engine σ} {completed : List (Engine σ)}
      {result : Except Failure StepOutcome} (course : Course .single 0 e completed result after) :
      RequestCourse .stepSingle e completed (result.map some) after
  | run {e after : Engine σ} {completed : List (Engine σ)} {result : Except Failure StepOutcome}
      (course : RunCourse e completed result after) :
      RequestCourse .run e completed (result.map some) after
  | released {e : Engine σ} (idle : e.control.pending = none) :
      RequestCourse .unlock e [] (.ok none) (e.steer Control.unlock)
  | replayed {e after : Engine σ} {completed : List (Engine σ)} {mode : StepMode}
      {result : Except Failure StepOutcome} (pending : e.control.pending = some mode)
      (course : Course mode 0 (e.steer Control.unlock) completed result after) :
      RequestCourse .unlock e completed (result.map some) after

theorem runCourse_of_runThrough {fuel : Nat} {result : Except Failure StepOutcome}
    (h : runThrough fuel e = some (result, after)) :
    ∃ completed, RunCourse e completed result after := by
  induction fuel generalizing e with
  | zero => simp [runThrough] at h
  | succ fuel ih =>
    cases advanced : advance fuel .burst 0 e with
    | none => simp [runThrough, advanced] at h
    | some pair =>
      obtain ⟨outcome, middle⟩ := pair
      obtain ⟨completed, course⟩ := course_of_advance advanced
      rw [runThrough, advanced] at h
      split at h
      · next same =>
        cases same
        obtain ⟨more, rest⟩ := ih h
        exact ⟨completed ++ more, .onward course rest⟩
      · next same =>
        -- a burst never ends because a single instruction is done
        cases same
        rcases course.final_of_burst with ⟨stepped, -⟩ | stop
        · cases stepped
        · cases stop
      · next notPaused _ =>
        cases h
        exact ⟨completed, .last course fun paused => notPaused after (by rw [paused])⟩

theorem requestCourse_of_answer {fuel : Nat} {request : Request}
    {result : Except Failure (Option StepOutcome)}
    (h : e.answer fuel request = some (result, after)) :
    ∃ completed, RequestCourse request e completed result after := by
  cases fuel with
  | zero => simp [answer] at h
  | succ fuel =>
    cases request with
    | step =>
      rw [answer] at h
      obtain ⟨pair, advanced, same⟩ := Option.map_eq_some_iff.mp h
      cases same
      obtain ⟨completed, course⟩ := course_of_advance advanced
      exact ⟨completed, .step course⟩
    | stepSingle =>
      rw [answer] at h
      obtain ⟨pair, advanced, same⟩ := Option.map_eq_some_iff.mp h
      cases same
      obtain ⟨completed, course⟩ := course_of_advance advanced
      exact ⟨completed, .stepSingle course⟩
    | run =>
      rw [answer] at h
      obtain ⟨pair, ran, same⟩ := Option.map_eq_some_iff.mp h
      cases same
      obtain ⟨completed, course⟩ := runCourse_of_runThrough ran
      exact ⟨completed, .run course⟩
    | unlock =>
      rw [answer] at h
      cases pending : e.control.pending with
      | none =>
        simp only [pending] at h
        cases h
        exact ⟨[], .released pending⟩
      | some mode =>
        simp only [pending] at h
        obtain ⟨pair, advanced, same⟩ := Option.map_eq_some_iff.mp h
        cases same
        obtain ⟨completed, course⟩ := course_of_advance advanced
        exact ⟨completed, .replayed pending course⟩

/-- A single step is what its course says. -/
theorem Course.answers {result : Except Failure StepOutcome}
    (course : Course .single 0 e completed result after) :
    e.Answers .stepSingle (result.map some) after := by
  obtain ⟨fuel, advanced⟩ := course.advance
  exact ⟨fuel + 1, by simp [answer, advanced]⟩

/-- A paused step is left where its last instruction has left the engine. -/
theorem Course.getLastD_of_paused {mode : StepMode} {executed : Nat} {e middle : Engine σ}
    (course : Course mode executed e completed (.ok .paused) middle) :
    completed.getLastD e = middle := by
  rcases course.final with ⟨-, last⟩ | stop
  · exact last
  · cases stop

theorem getLastD_append (first second : List (Engine σ)) (e : Engine σ) :
    (first ++ second).getLastD e = second.getLastD (first.getLastD e) := by
  induction first generalizing e with
  | nil => rfl
  | cons middle first ih => simp only [List.cons_append, List.getLastD_cons, ih]

theorem RunCourse.final {result : Except Failure StepOutcome}
    (course : RunCourse e completed result after) :
    ∃ executed, Stop .burst executed (completed.getLastD e) result after := by
  induction course with
  | last course unpaused =>
    rcases course.final_of_burst with ⟨paused, -⟩ | stop
    · exact absurd paused unpaused
    · exact ⟨_, stop⟩
  | onward course _ ih =>
    rw [getLastD_append, course.getLastD_of_paused]
    exact ih

/-- Two chains of which the second starts where the first ends make one chain. -/
theorem isChain_append_of_getLastD {R : Engine σ → Engine σ → Prop} {more : List (Engine σ)}
    (first : List.IsChain R (e :: completed))
    (second : List.IsChain R (completed.getLastD e :: more)) :
    List.IsChain R (e :: (completed ++ more)) := by
  induction completed generalizing e with
  | nil => exact second
  | cons middle completed ih =>
    rw [List.getLastD_cons] at second
    have ⟨step, rest⟩ := List.isChain_cons_cons.mp first
    exact List.isChain_cons_cons.mpr ⟨step, ih rest second⟩

theorem RunCourse.isChain {result : Except Failure StepOutcome}
    (course : RunCourse e completed result after) : List.IsChain Completes (e :: completed) := by
  induction course with
  | last course => exact course.isChain
  | onward course _ ih =>
    rw [← course.getLastD_of_paused] at ih
    exact isChain_append_of_getLastD course.isChain ih

end DialogueEngine.Engine
