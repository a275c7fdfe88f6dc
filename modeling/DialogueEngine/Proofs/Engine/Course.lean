import DialogueEngine.Proofs.Engine.Fuel
import DialogueEngine.Proofs.Engine.Transition
import Mathlib.Data.List.Chain

/-!
# The course of a step

A step as a derivation without fuel: which instructions it completes one after the other, and why
it is over. The derivation lists the engine after each completed instruction, so it also tells how
many the step completed itself, apart from what components made the engine execute meanwhile.
-/

namespace DialogueEngine

namespace Control

/-- The programs under way, the active one first. -/
def programs (c : Control) : List Program :=
  c.program :: c.continuations.map Continuation.program

/-- Goes on with suspended programs until one has an instruction left. -/
def leave : List Continuation → Control → Control
  | [], c => c
  | s :: rest, c =>
      if c.instruction?.isSome then c
      else leave rest { c with program := s.program, position := s.position, continuations := rest }

/-- The control state without the sub-programs that are finished. -/
def settled (c : Control) : Control := leave c.continuations c

theorem settled_of_instruction {c : Control} {instruction : Instruction}
    (next : c.instruction? = some instruction) : c.settled = c := by
  rw [settled]
  cases c.continuations <;> simp [leave, next]

theorem settled_of_last {c : Control} (last : c.resume? = none) : c.settled = c := by
  cases suspended : c.continuations with
  | nil => simp [settled, suspended, leave]
  | cons s rest => simp [resume?, suspended] at last

theorem resume?_of_cons (c : Control) {s : Continuation} {rest : List Continuation}
    (suspended : c.continuations = s :: rest) :
    c.resume? =
      some { c with program := s.program, position := s.position, continuations := rest } := by
  simp [resume?, suspended]

theorem settled_of_resume {c resumed : Control} (finished : c.instruction? = none)
    (resume : c.resume? = some resumed) : c.settled = resumed.settled := by
  cases suspended : c.continuations with
  | nil => simp [resume?, suspended] at resume
  | cons s rest =>
    simp only [resume?, suspended, Option.some.injEq] at resume
    subst resume
    simp [settled, suspended, leave, finished]

theorem locked_of_resume {c resumed : Control} (resume : c.resume? = some resumed) :
    resumed.locked = c.locked := by
  cases suspended : c.continuations with
  | nil => simp [resume?, suspended] at resume
  | cons s rest =>
    simp only [resume?, suspended, Option.some.injEq] at resume
    subst resume
    rfl

@[simp]
theorem locked_settled (c : Control) : c.settled.locked = c.locked := by
  rw [settled]
  fun_induction leave c.continuations c <;> simp_all

@[simp]
theorem pending_settled (c : Control) : c.settled.pending = c.pending := by
  rw [settled]
  fun_induction leave c.continuations c <;> simp_all

theorem programs_settled (c : Control) : c.settled.programs <:+ c.programs := by
  rw [settled]
  generalize same : c.continuations = suspended
  induction suspended generalizing c with
  | nil => exact List.suffix_refl _
  | cons s rest ih =>
    rw [leave]
    split
    · exact List.suffix_refl _
    · refine (ih _ rfl).trans ?_
      simp [programs, same]

theorem continuations_settled (c : Control) : c.settled.continuations <:+ c.continuations := by
  rw [settled]
  generalize same : c.continuations = suspended
  induction suspended generalizing c with
  | nil => simp [leave, same]
  | cons s rest ih =>
    rw [leave]
    split
    · simp [same]
    · exact (ih _ rfl).trans (List.suffix_cons _ _)

/-- Leaving finished sub-programs ends at an instruction, or with nothing suspended any more. -/
theorem resume?_settled {c : Control} (finished : c.settled.instruction? = none) :
    c.settled.resume? = none := by
  rw [settled] at finished ⊢
  generalize same : c.continuations = suspended at finished ⊢
  induction suspended generalizing c with
  | nil => simp [leave, resume?, same]
  | cons s rest ih =>
    rw [leave] at finished ⊢
    split at finished
    · next left => simp [finished] at left
    · next ended =>
      rw [if_neg ended]
      exact ih rfl finished

end Control

namespace Engine

variable {σ : Type}

/-- The engine without the sub-programs that are finished. -/
def settled (e : Engine σ) : Engine σ := e.steer Control.settled

@[simp]
theorem control_settled (e : Engine σ) : e.settled.control = e.control.settled := rfl

@[simp]
theorem config_settled (e : Engine σ) : e.settled.config = e.config := rfl

theorem settled_of_instruction {e : Engine σ} {instruction : Instruction}
    (next : e.control.instruction? = some instruction) : e.settled = e := by
  simp [settled, steer, Control.settled_of_instruction next]

/-- The next instruction is executed with a result. It may be one of a suspended program, if the
active one is finished. -/
structure Executes (e : Engine σ) (instruction : Instruction) (result : Except Failure Pacing)
    (after : Engine σ) : Prop where
  unlocked : e.control.locked = false
  next : e.settled.control.instruction? = some instruction
  ran : ∃ fuel, execute fuel instruction (e.settled.record instruction) = some (result, after)

/-- Why a step that has executed some instructions is over without completing another one: its
result and the engine that it leaves. -/
inductive Stop (mode : StepMode) (executed : Nat) (e : Engine σ) :
    Except Failure StepOutcome → Engine σ → Prop where
  | deferred (locked : e.control.locked = true) :
      Stop mode executed e (.ok .deferred) (e.steer (·.defer mode))
  | halted (unlocked : e.control.locked = false)
      (finished : e.settled.control.instruction? = none) :
      Stop mode executed e (.ok .halted) e.settled
  | exceeded {instruction : Instruction} {limit : Nat} (unlocked : e.control.locked = false)
      (next : e.settled.control.instruction? = some instruction)
      (reached : e.config.reachedLimit? executed = some limit) :
      Stop mode executed e
        (.error (Failure.within ⟨.burstExceeded limit, none⟩ { stack := e.settled.control.frames }))
        e.settled
  | failed {instruction : Instruction} {failure : Failure} {after : Engine σ}
      (within : e.config.reachedLimit? executed = none)
      (executes : e.Executes instruction (.error failure) after) :
      Stop mode executed e
        (.error (failure.within
          (after.control.contextOf instruction e.settled.control.position))) after

/-- How a step goes that has executed some instructions: the engines after the instructions that
it completes from here on, its result, and the engine that it leaves. -/
inductive Course : StepMode → Nat → Engine σ → List (Engine σ) → Except Failure StepOutcome →
    Engine σ → Prop where
  | ended {mode : StepMode} {executed : Nat} {e after : Engine σ}
      {result : Except Failure StepOutcome} (stop : Stop mode executed e result after) :
      Course mode executed e [] result after
  | stepped {executed : Nat} {e after : Engine σ} {instruction : Instruction} {pacing : Pacing}
      (within : e.config.reachedLimit? executed = none)
      (executes : e.Executes instruction (.ok pacing) after) :
      Course .single executed e [after] (.ok .stepped) after
  | paused {executed : Nat} {e after : Engine σ} {instruction : Instruction}
      (within : e.config.reachedLimit? executed = none)
      (executes : e.Executes instruction (.ok .pause) after) :
      Course .burst executed e [after] (.ok .paused) after
  | onward {executed : Nat} {e middle after : Engine σ} {instruction : Instruction}
      {completed : List (Engine σ)} {result : Except Failure StepOutcome}
      (within : e.config.reachedLimit? executed = none)
      (executes : e.Executes instruction (.ok .proceed) middle)
      (rest : Course .burst (executed + 1) middle completed result after) :
      Course .burst executed e (middle :: completed) result after

variable {mode : StepMode} {executed : Nat} {e after : Engine σ}
  {completed : List (Engine σ)} {result : Except Failure StepOutcome}

theorem settled_resume {control : Control} (finished : e.control.instruction? = none)
    (resume : e.control.resume? = some control) : settled { e with control } = e.settled := by
  simp [settled, steer, Control.settled_of_resume finished resume]

theorem Executes.of_resume {control : Control} {instruction : Instruction}
    {result : Except Failure Pacing} (unlocked : e.control.locked = false)
    (finished : e.control.instruction? = none) (resume : e.control.resume? = some control)
    (executes : Executes { e with control } instruction result after) :
    e.Executes instruction result after := by
  obtain ⟨-, next, ran⟩ := executes
  rw [settled_resume finished resume] at next ran
  exact ⟨unlocked, next, ran⟩

theorem Stop.of_resume {control : Control} (unlocked : e.control.locked = false)
    (finished : e.control.instruction? = none) (resume : e.control.resume? = some control)
    (stop : Stop mode executed { e with control } result after) :
    Stop mode executed e result after := by
  have same := settled_resume finished resume
  cases stop with
  | deferred locked =>
    simp only [Control.locked_of_resume resume, unlocked] at locked
    contradiction
  | halted _ finished =>
    rw [same] at finished ⊢
    exact .halted unlocked finished
  | exceeded _ next reached =>
    rw [same] at next ⊢
    exact .exceeded unlocked next reached
  | failed within executes =>
    rw [same]
    exact .failed within (executes.of_resume unlocked finished resume)

/-- A step that goes on with a suspended program takes the course of that. -/
theorem Course.of_resume {control : Control} (unlocked : e.control.locked = false)
    (finished : e.control.instruction? = none) (resume : e.control.resume? = some control)
    (course : Course mode executed { e with control } completed result after) :
    Course mode executed e completed result after := by
  cases course with
  | ended stop => exact .ended (stop.of_resume unlocked finished resume)
  | stepped within executes =>
    exact .stepped within (executes.of_resume unlocked finished resume)
  | paused within executes => exact .paused within (executes.of_resume unlocked finished resume)
  | onward within executes rest =>
    exact .onward within (executes.of_resume unlocked finished resume) rest

theorem executes_of_execute {fuel : Nat} {instruction : Instruction}
    {result : Except Failure Pacing} (unlocked : e.control.locked = false)
    (next : e.control.instruction? = some instruction)
    (ran : execute fuel instruction (e.record instruction) = some (result, after)) :
    e.Executes instruction result after := by
  have same := settled_of_instruction next
  exact ⟨unlocked, by rw [same]; exact next, fuel, by rw [same]; exact ran⟩

/-- What advances has a course. -/
theorem course_of_advance {fuel : Nat} (h : advance fuel mode executed e = some (result, after)) :
    ∃ completed, Course mode executed e completed result after := by
  induction fuel generalizing mode executed e with
  | zero => simp [advance] at h
  | succ fuel ih =>
    cases advanced_of_advance h with
    | deferred locked => exact ⟨[], .ended (.deferred locked)⟩
    | halted unlocked finished last =>
      have same : after.settled = after := by
        simp [settled, steer, Control.settled_of_last last]
      have stop : Stop mode executed after (.ok .halted) after.settled :=
        .halted unlocked (by rw [same]; exact finished)
      rw [same] at stop
      exact ⟨[], .ended stop⟩
    | resumed unlocked finished resume rest =>
      obtain ⟨completed, course⟩ := ih rest
      exact ⟨completed, course.of_resume unlocked finished resume⟩
    | exceeded unlocked next reached =>
      have same := settled_of_instruction next
      have stop := @Stop.exceeded σ mode _ _ _ _ unlocked (by rw [same]; exact next) reached
      rw [same] at stop
      exact ⟨[], .ended stop⟩
    | failed unlocked next within ran =>
      have stop := @Stop.failed σ mode _ _ _ _ _ within (executes_of_execute unlocked next ran)
      rw [settled_of_instruction next] at stop
      exact ⟨[], .ended stop⟩
    | stepped single unlocked next within ran =>
      subst single
      exact ⟨[after], .stepped within (executes_of_execute unlocked next ran)⟩
    | paused burst unlocked next within ran =>
      subst burst
      exact ⟨[after], .paused within (executes_of_execute unlocked next ran)⟩
    | onward burst unlocked next within ran rest =>
      subst burst
      obtain ⟨completed, course⟩ := ih rest
      exact ⟨_ :: completed, .onward within (executes_of_execute unlocked next ran) course⟩

theorem advance_resume {fuel : Nat} {control : Control} (unlocked : e.control.locked = false)
    (finished : e.control.instruction? = none) (resume : e.control.resume? = some control) :
    advance (fuel + 1) mode executed e = advance fuel mode executed { e with control } := by
  simp [advance, unlocked, finished, resume]

/-- What a step does without the finished sub-programs, it does with them. -/
theorem advance_of_settled (fuel : Nat) {outcome : Except Failure StepOutcome × Engine σ}
    (unlocked : e.control.locked = false)
    (h : advance fuel mode executed e.settled = some outcome) :
    ∃ more, advance more mode executed e = some outcome := by
  rw [settled, steer, Control.settled] at h
  generalize same : e.control.continuations = suspended at h
  induction suspended generalizing e with
  | nil => exact ⟨fuel, h⟩
  | cons s rest ih =>
    rw [Control.leave] at h
    split at h
    · exact ⟨fuel, h⟩
    · next ended =>
      have finished : e.control.instruction? = none := by simpa using ended
      have resume := e.control.resume?_of_cons same
      let control : Control :=
        { e.control with program := s.program, position := s.position, continuations := rest }
      obtain ⟨more, advanced⟩ := ih (e := { e with control }) unlocked rfl h
      exact ⟨more + 1, (advance_resume unlocked finished resume).trans advanced⟩

theorem Stop.advance (stop : Stop mode executed e result after) :
    ∃ fuel, Engine.advance fuel mode executed e = some (result, after) := by
  cases stop with
  | deferred locked => exact ⟨1, by simp [Engine.advance, locked]⟩
  | halted unlocked finished =>
    refine advance_of_settled 1 unlocked ?_
    have last := Control.resume?_settled finished
    rw [control_settled] at finished
    simp [Engine.advance, unlocked, finished, last]
  | exceeded unlocked next reached =>
    refine advance_of_settled 1 unlocked ?_
    rw [control_settled] at next
    simp [Engine.advance, unlocked, next, reached]
  | failed within executes =>
    obtain ⟨unlocked, next, fuel, ran⟩ := executes
    refine advance_of_settled (fuel + 1) unlocked ?_
    rw [control_settled] at next
    simp [Engine.advance, unlocked, next, within, ran]

/-- What has a course advances. -/
theorem Course.advance (course : Course mode executed e completed result after) :
    ∃ fuel, Engine.advance fuel mode executed e = some (result, after) := by
  induction course with
  | ended stop => exact stop.advance
  | stepped within executes | paused within executes =>
    obtain ⟨unlocked, next, fuel, ran⟩ := executes
    refine advance_of_settled (fuel + 1) unlocked ?_
    rw [control_settled] at next
    simp [Engine.advance, unlocked, next, within, ran]
  | onward within executes _ ih =>
    obtain ⟨unlocked, next, fuel, ran⟩ := executes
    obtain ⟨more, rest⟩ := ih
    refine advance_of_settled (max fuel more + 1) unlocked ?_
    rw [control_settled] at next
    simp only [Engine.advance, control_settled, Control.locked_settled, unlocked, next,
      config_settled, within, execute_mono (Nat.le_max_left fuel more) ran]
    exact advance_mono (Nat.le_max_right fuel more) rest

/-- A course ends with the last instruction that it completes, or stops where that has left the
engine. -/
theorem Course.final (course : Course mode executed e completed result after) :
    ((result = .ok .stepped ∧ mode = .single ∨ result = .ok .paused ∧ mode = .burst) ∧
        completed.getLastD e = after) ∨
      Stop mode (executed + completed.length) (completed.getLastD e) result after := by
  induction course with
  | ended stop => exact .inr stop
  | stepped | paused => simp
  | @onward executed e middle after _ completed result _ _ _ ih =>
    rw [List.getLastD_cons, List.length_cons, Nat.add_comm completed.length, ← Nat.add_assoc]
    exact ih

/-- A burst pauses, or it stops where its last instruction has left the engine. -/
theorem Course.final_of_burst (course : Course .burst executed e completed result after) :
    (result = .ok .paused ∧ completed.getLastD e = after) ∨
      Stop .burst (executed + completed.length) (completed.getLastD e) result after := by
  rcases course.final with ⟨⟨-, single⟩ | ⟨paused, -⟩, last⟩ | stop
  · cases single
  · exact .inl ⟨paused, last⟩
  · exact .inr stop

/-- One instruction of the engine's own is completed. -/
def Completes (e after : Engine σ) : Prop :=
  ∃ instruction pacing, e.Executes instruction (.ok pacing) after

theorem Course.isChain (course : Course mode executed e completed result after) :
    List.IsChain Completes (e :: completed) := by
  induction course with
  | ended => exact List.isChain_singleton _
  | stepped _ executes | paused _ executes =>
    exact List.isChain_pair.mpr ⟨_, _, executes⟩
  | onward _ executes _ ih => exact List.isChain_cons_cons.mpr ⟨⟨_, _, executes⟩, ih⟩

/-- What every completed instruction keeps holds after the last one. -/
theorem last_of_isChain {holds : Engine σ → Prop}
    (keeps : ∀ ⦃before after⦄, Completes before after → holds before → holds after)
    (chain : List.IsChain Completes (e :: completed)) (first : holds e) :
    holds (completed.getLastD e) := by
  have throughout := chain.induction holds _ keeps fun _ => first
  exact throughout _ List.getLastD_mem_cons

end Engine

end DialogueEngine
