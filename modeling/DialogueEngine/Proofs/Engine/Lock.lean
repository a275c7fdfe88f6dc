import DialogueEngine.Proofs.Engine.Reachability
import DialogueEngine.Proofs.Engine.Request

/-!
# Requests under a lock

What is asked of a locked engine is put off: nothing is executed, and the engine notes the mode of
the step that was asked for last. Unlocking makes up for that one step, and does what the step would
have done if the engine had never been locked.
-/

namespace DialogueEngine

/-- What can be asked of an engine while it stays locked. -/
inductive LateCall where
  | lock
  | step
  | stepSingle
  | run
deriving DecidableEq

namespace LateCall

def request? : LateCall → Option Request
  | .lock => none
  | .step => some .step
  | .stepSingle => some .stepSingle
  | .run => some .run

/-- The mode of the step that a call asks for. A run is put off as one burst. -/
def mode? : LateCall → Option StepMode
  | .lock => none
  | .step | .run => some .burst
  | .stepSingle => some .single

/-- The mode of the step that was asked for last. -/
def lastMode? (calls : List LateCall) : Option StepMode := (calls.filterMap mode?).getLast?

/-- How many calls ask for a step. -/
def requestCount (calls : List LateCall) : Nat := (calls.filterMap mode?).length

theorem lastMode?_request {call : LateCall} {mode : StepMode} (asks : call.mode? = some mode)
    (calls : List LateCall) :
    lastMode? (call :: calls) = some ((lastMode? calls).getD mode) := by
  simp [lastMode?, asks, List.getLast?_cons]

theorem requestCount_request {call : LateCall} {mode : StepMode} (asks : call.mode? = some mode)
    (calls : List LateCall) : requestCount (call :: calls) = requestCount calls + 1 := by
  simp [requestCount, asks]

theorem mode?_of_request? {call : LateCall} {request : Request}
    (asks : call.request? = some request) : ∃ mode, call.mode? = some mode := by
  cases call with
  | lock => cases asks
  | step | stepSingle | run => exact ⟨_, rfl⟩

end LateCall

/-- The request for a step of a mode. -/
def StepMode.request : StepMode → Request
  | .burst => .step
  | .single => .stepSingle

/-- The lock with a note on the step that has been put off, if any. -/
def Control.hold (c : Control) (pending : Option StepMode) : Control :=
  { c with locked := true, pending }

theorem Control.hold_eq_self {c : Control} (locked : c.locked = true) : c.hold c.pending = c := by
  simp [hold, ← locked]

theorem Control.unlock_eq_self {c : Control} (consistent : c.Consistent)
    (unlocked : c.locked = false) : c.unlock = c := by
  have idle : c.pending = none := by
    by_contra pending
    have locked := consistent (Option.isSome_iff_ne_none.mpr pending)
    rw [unlocked] at locked
    contradiction
  simp [unlock, ← idle, ← unlocked]

namespace Engine

variable {σ : Type} {e s after : Engine σ}

/-- Calls are made one after the other, with the results of those that are requests. -/
inductive Makes : Engine σ → List LateCall → List (Except Failure (Option StepOutcome)) →
    Engine σ → Prop where
  | nil (e : Engine σ) : Makes e [] [] e
  | lock {e after : Engine σ} {calls : List LateCall}
      {results : List (Except Failure (Option StepOutcome))}
      (rest : Makes (e.perform .lock) calls results after) :
      Makes e (.lock :: calls) results after
  | request {e middle after : Engine σ} {call : LateCall} {request : Request}
      {result : Except Failure (Option StepOutcome)} {calls : List LateCall}
      {results : List (Except Failure (Option StepOutcome))}
      (asks : call.request? = some request) (answers : e.Answers request result middle)
      (rest : Makes middle calls results after) : Makes e (call :: calls) (result :: results) after

theorem perform_lock_of_locked (locked : e.control.locked = true) : e.perform .lock = e := by
  have same : e.control.lock = e.control := by simp [Control.lock, ← locked]
  simp [perform, steer, same]

theorem answers_deferred {call : LateCall} {request : Request} {mode : StepMode}
    (asks : call.request? = some request) (inMode : call.mode? = some mode)
    (locked : e.control.locked = true) :
    e.Answers request (.ok (some .deferred)) (e.steer (·.hold (some mode))) := by
  have held : e.steer (·.hold (some mode)) = e.steer (·.defer mode) := by
    simp [steer, Control.hold, Control.defer, ← locked]
  rw [held]
  refine ⟨3, ?_⟩
  cases call with
  | lock => cases asks
  | step | stepSingle | run =>
    cases asks
    cases inMode
    simp [answer, runThrough, advance, locked, Except.map]

/-- Under the lock every request is deferred, and only the note on the last one remains. -/
theorem makes_iff_of_locked {calls : List LateCall}
    {results : List (Except Failure (Option StepOutcome))} (locked : e.control.locked = true) :
    Makes e calls results after ↔
      results = List.replicate (LateCall.requestCount calls) (.ok (some .deferred)) ∧
      after = e.steer fun c => c.hold ((LateCall.lastMode? calls).or c.pending) := by
  induction calls generalizing e results with
  | nil =>
    have kept : e.steer (fun c => c.hold ((LateCall.lastMode? []).or c.pending)) = e := by
      simp [steer, LateCall.lastMode?, Control.hold_eq_self locked]
    rw [kept]
    constructor
    · rintro ⟨⟩
      exact ⟨rfl, rfl⟩
    · rintro ⟨rfl, rfl⟩
      exact .nil _
  | cons call calls ih =>
    cases asks : call.request? with
    | none =>
      cases call with
      | step | stepSingle | run => cases asks
      | lock =>
        refine Iff.trans ?_ (ih locked)
        constructor
        · rintro (_ | rest | ⟨asks, -, -⟩)
          · rwa [perform_lock_of_locked locked] at rest
          · cases asks
        · intro rest
          refine .lock ?_
          rwa [perform_lock_of_locked locked]
    | some request =>
      obtain ⟨mode, inMode⟩ := LateCall.mode?_of_request? asks
      have deferred := answers_deferred asks inMode locked
      have final : (e.steer (·.hold (some mode))).steer
            (fun c => c.hold ((LateCall.lastMode? calls).or c.pending)) =
          e.steer fun c => c.hold ((LateCall.lastMode? (call :: calls)).or c.pending) := by
        rw [LateCall.lastMode?_request inMode]
        cases LateCall.lastMode? calls <;> rfl
      rw [LateCall.requestCount_request inMode, List.replicate_succ, ← final]
      constructor
      · rintro (_ | _ | ⟨other, answers, rest⟩)
        · cases asks
        · cases asks.symm.trans other
          obtain ⟨rfl, rfl⟩ := answers.unique deferred
          obtain ⟨rfl, rfl⟩ := (ih rfl).mp rest
          exact ⟨rfl, rfl⟩
      · rintro ⟨rfl, rfl⟩
        exact .request asks deferred ((ih rfl).mpr ⟨rfl, rfl⟩)

/-- Unlocking does the step that has been put off, as the engine does it without the lock. -/
theorem answers_unlock_iff {mode : StepMode} {result : Except Failure (Option StepOutcome)}
    (released : s.steer Control.unlock = s) :
    (s.steer (·.hold (some mode))).Answers .unlock result after ↔
      s.Answers mode.request result after := by
  have same (fuel : Nat) : (s.steer (·.hold (some mode))).answer fuel .unlock =
      s.answer fuel mode.request := by
    cases fuel with
    | zero => rfl
    | succ fuel =>
      have back : (s.steer (·.hold (some mode))).steer Control.unlock = s := released
      have pending : (s.steer (·.hold (some mode))).control.pending = some mode := rfl
      simp only [answer, pending, back]
      cases mode <;> rfl
  simp only [Answers, same]

/-- Locking only delays: whatever is asked of a locked engine is deferred, and unlocking does what
the last request would have done at first. -/
theorem unlock_makes_up (reachable : s.Reachable) (unlocked : s.control.locked = false)
    (calls : List LateCall) :
    (∀ results held, Makes (s.perform .lock) calls results held ↔
      results = List.replicate (LateCall.requestCount calls) (.ok (some .deferred)) ∧
      held = s.steer (·.hold (LateCall.lastMode? calls))) ∧
    ∀ results held, Makes (s.perform .lock) calls results held →
      ∀ result after, held.Answers .unlock result after ↔
        match LateCall.lastMode? calls with
        | none => result = .ok none ∧ after = s
        | some mode => s.Answers mode.request result after := by
  have released : s.steer Control.unlock = s := by
    simp [steer, Control.unlock_eq_self reachable.consistent unlocked]
  have idle : s.control.pending = none := by rw [← released]; rfl
  have makes (results held) : Makes (s.perform .lock) calls results held ↔
      results = List.replicate (LateCall.requestCount calls) (.ok (some .deferred)) ∧
      held = s.steer (·.hold (LateCall.lastMode? calls)) := by
    rw [makes_iff_of_locked rfl]
    simp [perform, steer, Control.lock, Control.hold, idle]
  refine ⟨makes, ?_⟩
  intro results held made result after
  obtain ⟨-, rfl⟩ := (makes results held).mp made
  cases LateCall.lastMode? calls with
  | some mode => exact answers_unlock_iff released
  | none =>
    have opened : (s.steer (·.hold none)).Answers .unlock (.ok none) s := by
      refine ⟨1, ?_⟩
      have back : (s.steer (·.hold none)).steer Control.unlock = s := released
      have nothing : (s.steer (·.hold none)).control.pending = none := rfl
      simp only [answer, nothing, back]
    constructor
    · intro answers
      exact answers.unique opened
    · rintro ⟨rfl, rfl⟩
      exact opened

/-- A component that locks the engine, asks for a step that is deferred, and then for a pause. -/
def closingGate : Component Unit := fun _ =>
  .perform .lock (.ask .step fun _ => .done (.ok .pause))

def atClosingGate : Engine Unit :=
  ((Engine.new {} ()).perform (.register "gate" closingGate)).perform
    (.load [.callComponent "gate" .empty])

theorem unlock_makes_up_atClosingGate :
    ∃ held after, atClosingGate.Reachable ∧ atClosingGate.control.locked = false ∧
      Makes (atClosingGate.perform .lock) [.run, .lock, .stepSingle]
        [.ok (some .deferred), .ok (some .deferred)] held ∧
      held.Answers .unlock (.ok (some .stepped)) after ∧ after.control.pending = some .burst := by
  have reachable : atClosingGate.Reachable := ((Reachable.new {} ()).perform _).perform _
  have unlocked : atClosingGate.control.locked = false := rfl
  obtain ⟨makes, unlocks⟩ := unlock_makes_up reachable unlocked [.run, .lock, .stepSingle]
  have made := (makes [.ok (some .deferred), .ok (some .deferred)] _).mpr ⟨rfl, rfl⟩
  have direct : atClosingGate.Answers .stepSingle (.ok (some .stepped)) _ := ⟨8, rfl⟩
  exact ⟨_, _, reachable, unlocked, made, (unlocks _ _ made _ _).mpr direct, rfl⟩

end Engine

end DialogueEngine
