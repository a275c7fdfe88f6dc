import DialogueEngine.Proofs.Engine.Machine.Simulation
import DialogueEngine.Proofs.Engine.Machine.Turn
import DialogueEngine.Proofs.Engine.Stability
import DialogueEngine.Proofs.Engine.StepOutcome
import Mathlib.Data.List.DropRight

/-!
# What the trace shows

The trace forgets: it is cleared on request, and a full one gives up its oldest record for every new
one. Annals that are kept beside the machine forget nothing. They tell at every moment what the
trace shows, also in the middle of nested steps and after failures.
-/

namespace DialogueEngine

/-- Whoever gives up the oldest elements one by one keeps the newest of all. -/
theorem rtake_concat_of_rtake {α : Type} (n : Nat) (xs : List α) (x : α) :
    (xs.rtake n ++ [x]).rtake n = (xs ++ [x]).rtake n := by
  have newest (ys : List α) : (x :: ys.take n).take n = (x :: ys).take n := by
    cases n with
    | zero => rfl
    | succ n => simp [List.take_take]
  simp only [List.rtake_eq_reverse_take_reverse, List.reverse_append, List.reverse_reverse,
    List.reverse_singleton, List.singleton_append, newest]

theorem rtake_min_length {α : Type} (n : Nat) (xs : List α) :
    xs.rtake (min n xs.length) = xs.rtake n := by
  rw [List.rtake, List.rtake]
  congr 1
  omega

namespace Trace

variable (trace : Trace)

theorem recent_eq_rtake (count : Nat) : trace.recent count = trace.records.rtake count := rfl

/-- A trace that is full gives up its oldest record for a new one. -/
theorem records_push (position depth : Nat) (instruction : Instruction) :
    (trace.push position depth instruction).records =
      (trace.records ++ [TraceRecord.mk trace.nextId position depth instruction]).rtake
        trace.capacity := evict_eq_drop _ _

end Trace

/-! ## Annals -/

/-- What was found when an instruction was about to be executed. -/
structure Attempt where
  position : Nat
  depth : Nat
  instruction : Instruction

def Attempt.record (attempt : Attempt) (id : Nat) : TraceRecord :=
  ⟨id, attempt.position, attempt.depth, attempt.instruction⟩

/-- All attempts to execute an instruction, the oldest first: those from before the trace was last
cleared, and those since. -/
structure Annals where
  before : List Attempt := []
  since : List Attempt := []

namespace Annals

variable (annals : Annals)

def attempts : List Attempt := annals.before ++ annals.since

/-- The attempts as they are recorded, numbered through from the first one ever made. -/
def numbered : List TraceRecord := annals.attempts.mapIdx fun id attempt => attempt.record id

def sinceClear : List TraceRecord := annals.numbered.drop annals.before.length

def add (attempt : Attempt) : Annals := { annals with since := annals.since ++ [attempt] }

def clear : Annals := ⟨annals.attempts, []⟩

theorem ids_numbered : annals.numbered.map TraceRecord.id = List.range annals.attempts.length := by
  refine List.ext_getElem ?_ ?_
  · simp [numbered]
  · intro i _ _
    simp [numbered, Attempt.record]

theorem length_sinceClear : annals.sinceClear.length = annals.since.length := by
  simp [sinceClear, numbered, attempts]

theorem attempts_add (attempt : Attempt) :
    (annals.add attempt).attempts = annals.attempts ++ [attempt] := by
  simp [add, attempts]

theorem attempts_clear : annals.clear.attempts = annals.attempts := by simp [clear, attempts]

theorem sinceClear_add (attempt : Attempt) :
    (annals.add attempt).sinceClear =
      annals.sinceClear ++ [attempt.record annals.attempts.length] := by
  have older : annals.before.length ≤ annals.numbered.length := by simp [numbered, attempts]
  rw [sinceClear, numbered, attempts_add, List.mapIdx_concat]
  exact List.drop_append_of_le_length older

theorem sinceClear_clear : annals.clear.sinceClear = [] := by
  simp [sinceClear, numbered, clear, attempts]

end Annals

variable {σ : Type}

namespace Situation

/-- What is noted of the next tick. -/
inductive Notes (c : Situation σ) (annals : Annals) : Annals → Prop where
  | attempt {instruction : Instruction} (runs : c.Runs instruction) :
      Notes c annals (annals.add ⟨c.control.position, c.control.depth, instruction⟩)
  | clear (performs : c.Performs .clearTrace) : Notes c annals annals.clear
  | other (idle : ∀ instruction, ¬ c.Runs instruction) (keeps : ¬ c.Performs .clearTrace) :
      Notes c annals annals

theorem exists_notes (c : Situation σ) (annals : Annals) : ∃ later, c.Notes annals later := by
  by_cases clears : c.Performs .clearTrace
  · exact ⟨_, .clear clears⟩
  · by_cases running : ∃ instruction, c.Runs instruction
    · obtain ⟨instruction, runs⟩ := running
      exact ⟨_, .attempt runs⟩
    · exact ⟨_, .other (not_exists.mp running) clears⟩

end Situation

/-- A tick, and what is noted of it. -/
def Noted (c next : Situation σ × Annals) : Prop := Tick c.1 next.1 ∧ c.1.Notes c.2 next.2

/-! ## What a tick does to the trace -/

theorem Engine.trace_of_execute {fuel : Nat} {e after : Engine σ} {instruction : Instruction}
    {result : Except Failure Pacing} (simple : e.calledAction? instruction = none)
    (ran : execute fuel instruction e = some (result, after)) : after.trace = e.trace := by
  cases fuel with
  | zero => simp [execute] at ran
  | succ fuel =>
    cases executed_of_execute ran with
    | interrupted found | performed found =>
      rw [calledAction?_callComponent found] at simple
      cases simple
    | _ => rfl

theorem Tick.config_eq {c next : Situation σ} (tick : Tick c next) :
    next.engine.config = c.engine.config := by
  cases tick with
  | act acts =>
    cases acts with
    | perform operation => exact Engine.stable_config.perform _ operation
    | _ => rfl
  | execute _ _ ran =>
    exact (Engine.stable_config.execute ran).trans (Engine.stable_config.record _ _)
  | enter => exact Engine.stable_config.record _ _
  | _ => rfl

variable {c next : Situation σ}

/-- An instruction is recorded before anything can come of it. -/
theorem trace_of_runs {instruction : Instruction} (runs : c.Runs instruction)
    (tick : Tick c next) : next.engine.trace = (c.engine.record instruction).trace := by
  obtain ⟨e, activity, frames⟩ := c
  obtain ⟨mode, executed, same, begins⟩ := runs
  cases same
  -- a step that begins an instruction is neither locked nor finished nor over its budget
  cases tick with
  | defer locked => cases begins.unlocked.symm.trans locked
  | halt _ finished | resume _ finished => cases finished.symm.trans begins.next
  | exceed _ _ reached => cases reached.symm.trans begins.within
  | execute again simple ran =>
    cases begins.next.symm.trans again.next
    rw [← Engine.calledAction?_record] at simple
    exact Engine.trace_of_execute simple ran
  | enter again =>
    cases begins.next.symm.trans again.next
    rfl

theorem trace_of_idle (idle : ∀ instruction, ¬ c.Runs instruction)
    (keeps : ¬ c.Performs .clearTrace) (tick : Tick c next) :
    next.engine.trace = c.engine.trace := by
  cases tick with
  | act acts =>
    cases acts with
    | perform operation =>
      cases operation with
      | clearTrace => exact absurd ⟨_, rfl⟩ keeps
      | _ => rfl
    | _ => rfl
  | execute begins | enter begins => exact absurd ⟨_, _, rfl, begins⟩ (idle _)
  | _ => rfl

/-! ## The trace and the annals -/

/-- An engine that traces shows the latest attempts, as many as its capacity allows. -/
structure Engine.Shows (e : Engine σ) (config : Config) (annals : Annals) : Prop where
  settings : e.config = config
  capacity : e.trace.capacity = config.traceCapacity
  numbers : e.trace.nextId = annals.attempts.length
  records : e.trace.records = annals.sinceClear.rtake config.traceCapacity

variable {config : Config} {annals later : Annals}

theorem shows_of_runs {instruction : Instruction} (enabled : config.traceEnabled = true)
    (shown : c.engine.Shows config annals) (runs : c.Runs instruction) (tick : Tick c next) :
    next.engine.Shows config
      (annals.add ⟨c.control.position, c.control.depth, instruction⟩) := by
  have tracing : c.engine.config.traceEnabled = true := shown.settings ▸ enabled
  have trace : next.engine.trace =
      c.engine.trace.push c.control.position c.control.depth instruction := by
    rw [trace_of_runs runs tick, Engine.record, if_pos tracing]
    rfl
  refine ⟨tick.config_eq.trans shown.settings, ?_, ?_, ?_⟩
  · rw [trace]
    exact shown.capacity
  · rw [trace, Annals.attempts_add, List.length_append]
    exact congrArg (· + 1) shown.numbers
  · rw [trace, Trace.records_push, shown.capacity, shown.numbers, shown.records,
      rtake_concat_of_rtake, Annals.sinceClear_add]
    rfl

theorem shows_of_clear (shown : c.engine.Shows config annals) (performs : c.Performs .clearTrace)
    (tick : Tick c next) : next.engine.Shows config annals.clear := by
  have trace : next.engine.trace = c.engine.trace.clear := by
    rw [(engine_of_performs performs tick).1]
    rfl
  refine ⟨tick.config_eq.trans shown.settings, ?_, ?_, ?_⟩
  · rw [trace]
    exact shown.capacity
  · rw [trace, Annals.attempts_clear]
    exact shown.numbers
  · rw [trace, Annals.sinceClear_clear]
    simp [Trace.clear]

/-- The trace keeps up with the annals, tick by tick. -/
theorem Engine.Shows.tick (shown : c.engine.Shows config annals)
    (enabled : config.traceEnabled = true) (notes : c.Notes annals later) (tick : Tick c next) :
    next.engine.Shows config later := by
  cases notes with
  | attempt runs => exact shows_of_runs enabled shown runs tick
  | clear performs => exact shows_of_clear shown performs tick
  | other idle keeps =>
    have trace := trace_of_idle idle keeps tick
    exact ⟨tick.config_eq.trans shown.settings, trace ▸ shown.capacity, trace ▸ shown.numbers,
      trace ▸ shown.records⟩

theorem Engine.shows_new (config : Config) (host : σ) : (new config host).Shows config {} where
  settings := rfl
  capacity := rfl
  numbers := rfl
  records := by simp [new, Annals.sinceClear, Annals.numbered, Annals.attempts]

theorem shows_of_noted {host : σ} {session : Action σ} {c : Situation σ × Annals}
    (enabled : config.traceEnabled = true)
    (path : Relation.ReflTransGen Noted (⟨.new config host, .act session, []⟩, {}) c) :
    c.1.engine.Shows config c.2 := by
  induction path with
  | refl => exact Engine.shows_new config host
  | tail _ noted ih => exact ih.tick enabled noted.2 noted.1

theorem noted_of_ticks {start : Situation σ} (ticks : Ticks start c) (first : Annals) :
    ∃ annals, Relation.ReflTransGen Noted (start, first) (c, annals) := by
  induction ticks with
  | refl => exact ⟨first, .refl⟩
  | tail _ tick ih =>
    obtain ⟨annals, path⟩ := ih
    obtain ⟨later, notes⟩ := Situation.exists_notes _ annals
    exact ⟨later, path.tail ⟨tick, notes⟩⟩

/-- At every moment the trace shows the latest of the instructions that have been started since it
was last cleared, as many as its capacity allows, whatever has come of them and whoever has had
them executed; and each bears its number among all that have ever been started. -/
theorem trace_shows_latest_attempts {host : σ} {session : Action σ}
    (enabled : config.traceEnabled = true)
    (ticks : Ticks ⟨.new config host, .act session, []⟩ c) :
    (∃ annals, Relation.ReflTransGen Noted (⟨.new config host, .act session, []⟩, {})
      (c, annals)) ∧
    ∀ annals, Relation.ReflTransGen Noted (⟨.new config host, .act session, []⟩, {})
        (c, annals) →
      c.engine.trace.records =
        annals.sinceClear.rtake (min config.traceCapacity annals.since.length) ∧
      annals.numbered.map TraceRecord.id = List.range annals.attempts.length ∧
      c.engine.trace.nextId = annals.attempts.length ∧
      ∀ count, c.engine.trace.recent count =
        c.engine.trace.records.rtake (min count c.engine.trace.records.length) := by
  refine ⟨noted_of_ticks ticks {}, ?_⟩
  intro annals path
  have shown : c.engine.Shows config annals := shows_of_noted enabled path
  refine ⟨?_, annals.ids_numbered, shown.numbers, ?_⟩
  · rw [shown.records, ← annals.length_sinceClear, rtake_min_length]
  · intro count
    rw [Trace.recent_eq_rtake, rtake_min_length]

/-- The trace is cleared after a step in which a component has had an instruction executed that
fails, and the instruction fails again. -/
def clearedSession : Action Unit :=
  .perform (.register "usher" Engine.usher)
    (.perform (.load [.callComponent "usher" .empty, .ret])
      (.ask .step fun _ =>
        .perform .clearTrace (.ask .step fun _ => .done (.ok .proceed))))

theorem trace_shows_latest_attempts_cleared :
    ∃ c annals, Ticks ⟨.new { traceEnabled := true, traceCapacity := 1 } (), .act clearedSession,
        []⟩ c ∧
      Relation.ReflTransGen Noted
        (⟨.new { traceEnabled := true, traceCapacity := 1 } (), .act clearedSession, []⟩, {})
        (c, annals) ∧
      annals.attempts.length = 3 ∧
      c.engine.trace.records = [⟨2, 1, 0, .ret⟩] ∧
      annals.sinceClear.rtake (min 1 annals.since.length) = [⟨2, 1, 0, .ret⟩] := by
  have acted : Engine.act 20 clearedSession
      (.new { traceEnabled := true, traceCapacity := 1 } ()) = some (.ok .proceed, _) := rfl
  have ticks := Engine.ticks_act [] acted
  obtain ⟨⟨annals, path⟩, shown⟩ := trace_shows_latest_attempts rfl ticks
  obtain ⟨records, -, numbers, -⟩ := shown annals path
  exact ⟨_, annals, ticks, path, numbers.symm, rfl, records.symm⟩

end DialogueEngine
