import DialogueEngine.Proofs.Engine.Atomicity
import DialogueEngine.Proofs.Engine.Lock
import DialogueEngine.Proofs.Engine.Machine.Determinism
import DialogueEngine.Proofs.Engine.Machine.Turn

/-!
# Pending steps

A step that has been put off is pending only while the engine is locked. This holds at every moment
of a session: in the middle of nested steps, and after a failing component has been undone. So
unlocking an engine that is not locked executes nothing.
-/

namespace DialogueEngine

variable {σ : Type}

namespace Situation

/-- A host has made an engine and has come this far with what it does to it. -/
def Arises (c : Situation σ) : Prop :=
  ∃ (config : Config) (host : σ) (session : Action σ),
    Ticks ⟨.new config host, .act session, []⟩ c

/-- A step is pending only under a lock, as things stand and as they would if components failed. -/
structure Consistent (c : Situation σ) : Prop where
  now : c.control.Consistent
  saved : ∀ before ∈ c.snapshots, before.Consistent

end Situation

open Situation

theorem Engine.Acts.consistent {e after : Engine σ} {action next : Action σ}
    (acts : e.Acts action next after) (before : e.control.Consistent) :
    after.control.Consistent := by
  cases acts with
  | perform operation => exact consistent_perform before operation
  | _ => exact before

theorem Control.consistent_unlock (c : Control) : c.unlock.Consistent := by
  intro pending
  simp [unlock] at pending

theorem Tick.consistent {c next : Situation σ} (tick : Tick c next) (before : c.Consistent) :
    next.Consistent := by
  obtain ⟨now, saved⟩ := before
  cases tick with
  | act acts => exact ⟨acts.consistent now, saved⟩
  | release | makeUp => exact ⟨Control.consistent_unlock _, saved⟩
  | defer locked => exact ⟨(Control.Move.defer _ locked).consistent now, saved⟩
  | resume _ _ resume => exact ⟨(Control.Move.resume resume).consistent now, saved⟩
  | @execute e _ instruction _ _ _ _ _ _ _ ran =>
    have recorded := Engine.stable_consistent.record e instruction now
    exact ⟨Engine.stable_consistent.execute ran recorded, saved⟩
  | @enter e instruction =>
    -- the control state from before the instruction is what a failure would put back
    have recorded := Engine.stable_consistent.record e instruction now
    refine ⟨Engine.stable_consistent.move (.jump _ _) recorded, ?_⟩
    exact List.forall_mem_cons.mpr ⟨now, saved⟩
  | leave => exact ⟨now, (List.forall_mem_cons.mp saved).2⟩
  | rollBack =>
    obtain ⟨before, rest⟩ := List.forall_mem_cons.mp saved
    exact ⟨before, rest⟩
  | askStep | askSingle | askRun | halt | exceed | fail | stop | pause | goOn | runOn | runOver
  | answer => exact ⟨now, saved⟩

theorem Situation.Arises.consistent {c : Situation σ} (arises : c.Arises) : c.Consistent := by
  obtain ⟨config, host, session, ticks⟩ := arises
  induction ticks with
  | refl => exact ⟨(Engine.Reachable.new config host).consistent, nofun⟩
  | tail _ tick ih => exact tick.consistent ih

theorem Engine.steer_unlock_of_unlocked {e : Engine σ} (consistent : e.control.Consistent)
    (unlocked : e.control.locked = false) : e.steer Control.unlock = e := by
  simp [steer, Control.unlock_eq_self consistent unlocked]

/-- At no moment of a session is a step pending without a lock. So whoever unlocks an engine that is
not locked gets no outcome, and the engine stays as it is. -/
theorem pending_only_under_lock {c : Situation σ} (arises : c.Arises) :
    (c.control.pending.isSome = true → c.control.locked = true) ∧
      (c.control.locked = false →
        (∀ result after, c.engine.Answers .unlock result after ↔
          result = .ok none ∧ after = c.engine) ∧
        ∀ next after, c.activity = .act (.ask .unlock next) →
          (Tick c after ↔ after = ⟨c.engine, .act (next (.ok none)), c.frames⟩)) := by
  have consistent := arises.consistent.now
  refine ⟨consistent, ?_⟩
  intro unlocked
  have same := Engine.steer_unlock_of_unlocked consistent unlocked
  have idle : c.engine.control.pending = none := by rw [← same]; rfl
  constructor
  · intro result after
    have answers : c.engine.Answers .unlock (.ok none) c.engine :=
      ⟨1, by simp only [Engine.answer, idle, same]⟩
    constructor
    · intro other
      exact other.unique answers
    · rintro ⟨rfl, rfl⟩
      exact answers
  · intro next after unlocks
    obtain ⟨e, activity, frames⟩ := c
    subst unlocks
    have release := Tick.release next frames idle
    rw [same] at release
    constructor
    · intro tick
      exact tick.unique release
    · rintro rfl
      exact release

/-- The host unlocks the engine, whatever it has been told before. -/
def unlocking : Action Unit := .ask .unlock fun _ => .done (.ok .proceed)

/-- The host has a component called that fails under a lock, with a step pending. -/
def jammedSession : Action Unit :=
  .perform (.register "gate" Engine.jammedGate)
    (.perform (.load [.call 1, .callComponent "gate" .empty]) (.ask .run fun _ => unlocking))

def afterJam : Situation Unit := ⟨Engine.atJammedGate.steer (·.call 1), .act unlocking, []⟩

theorem pending_only_under_lock_afterJam :
    afterJam.Arises ∧ afterJam.control.locked = false ∧
      afterJam.engine.Answers .unlock (.ok none) afterJam.engine ∧
      Tick afterJam ⟨afterJam.engine, .act (.done (.ok .proceed)), []⟩ := by
  have failed : Engine.atJammedGate.answer 12 .run =
      some (.error ⟨.host "gate jammed", some _⟩, afterJam.engine) := rfl
  have loading : Ticks ⟨Engine.new {} (), .act jammedSession, []⟩
      ⟨Engine.atJammedGate, .act (.ask .run fun _ => unlocking), []⟩ :=
    .head (.act (.perform _ _)) (.single (.act (.perform _ _)))
  have arises : afterJam.Arises :=
    ⟨{}, (), jammedSession, loading.trans (Engine.ticks_answer _ [] failed)⟩
  have unlocked : afterJam.control.locked = false := rfl
  obtain ⟨-, unlocks⟩ := pending_only_under_lock arises
  obtain ⟨answers, ticks⟩ := unlocks unlocked
  exact ⟨arises, unlocked, (answers _ _).mpr ⟨rfl, rfl⟩, (ticks _ _ rfl).mpr rfl⟩

end DialogueEngine
