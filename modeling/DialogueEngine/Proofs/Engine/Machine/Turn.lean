import DialogueEngine.Proofs.Engine.Machine.Basic
import DialogueEngine.Proofs.Engine.Transition

/-!
# What a tick does to the control state

All ticks as far as they concern where the programs stand and what is put back if a component
fails: most change neither, and each of the others changes them in one of a few ways.
-/

namespace DialogueEngine

namespace Control

/-- The programs stand where they stood; the lock may be another. -/
structure SamePlace (c after : Control) : Prop where
  program : after.program = c.program
  position : after.position = c.position
  callStack : after.callStack = c.callStack
  continuations : after.continuations = c.continuations

theorem SamePlace.refl (c : Control) : c.SamePlace c := ⟨rfl, rfl, rfl, rfl⟩

theorem continuations_of_resume {c after : Control} (resume : c.resume? = some after) :
    c.continuations = ⟨after.program, after.position⟩ :: after.continuations := by
  rw [resume?] at resume
  split at resume
  · cases resume
  · next suspended =>
    cases resume
    exact suspended

/-- All that a return does. -/
structure Returns (c after : Control) : Prop where
  program : after.program = c.program
  callStack : c.callStack = after.position :: after.callStack
  continuations : after.continuations = c.continuations

theorem returns_of_ret {c after : Control} (back : c.ret? = some after) : c.Returns after := by
  rw [ret?] at back
  split at back
  · cases back
  · next stack =>
    cases back
    exact ⟨rfl, stack, rfl⟩

end Control

variable {σ : Type}

def Frame.snapshot? : Frame σ → Option Control
  | .component before => some before
  | _ => none

namespace Situation

variable (c : Situation σ)

def control : Control := c.engine.control

/-- The control states that the component calls under way put back if they fail, that of the
innermost call in front. -/
def snapshots : List Control := c.frames.filterMap Frame.snapshot?

/-- An operation is about to be performed. -/
def Performs (operation : Operation σ) : Prop :=
  ∃ next, c.activity = .act (.perform operation next)

/-- An instruction is about to be executed. -/
def Runs (instruction : Instruction) : Prop :=
  ∃ mode executed, c.activity = .advance mode executed ∧ c.engine.Begins executed instruction

/-- A component is about to fail. -/
def Fails : Prop := ∃ failure, c.activity = .act (.done (.error failure))

/-- The control states that the next tick can lead to by itself. -/
inductive Steers : Control → Prop where
  | stay {after : Control} (same : c.control.SamePlace after) : Steers after
  | load {program : Program} (performs : c.Performs (.load program)) :
      Steers (c.control.load program)
  | loadSub {program : Program} (performs : c.Performs (.loadSub program)) :
      Steers (c.control.loadSub program)
  | reset (performs : c.Performs .reset) : Steers c.control.reset
  | resume {after : Control} (resume : c.control.resume? = some after) : Steers after
  | jump {instruction : Instruction} (runs : c.Runs instruction) (position : Nat) :
      Steers (c.control.jump position)
  | call {target : UInt64} (runs : c.Runs (.call target)) : Steers (c.control.call target.toNat)
  | ret {after : Control} (runs : c.Runs .ret) (back : c.control.ret? = some after) : Steers after

/-- The ways in which a tick goes on to the next situation. -/
inductive Turn (next : Situation σ) : Prop where
  | steers (steers : c.Steers next.control) (snapshots : next.snapshots = c.snapshots)
  | enters {name : String} {args : ComponentArgs} (runs : c.Runs (.callComponent name args))
      (control : next.control = c.control.moveOn)
      (snapshots : next.snapshots = c.control :: c.snapshots)
  | leaves {before : Control} (control : next.control = c.control)
      (snapshots : c.snapshots = before :: next.snapshots)
  | rollsBack {before : Control} (fails : c.Fails) (control : next.control = before)
      (snapshots : c.snapshots = before :: next.snapshots)

end Situation

open Situation

theorem steers_of_perform {e : Engine σ} (operation : Operation σ) (next : Action σ)
    (frames : List (Frame σ)) :
    Steers ⟨e, .act (.perform operation next), frames⟩ (e.perform operation).control := by
  cases operation with
  | load program => exact .load ⟨next, rfl⟩
  | loadSub program => exact .loadSub ⟨next, rfl⟩
  | reset => exact .reset ⟨next, rfl⟩
  | _ => exact .stay ⟨rfl, rfl, rfl, rfl⟩

theorem steers_of_acts {e after : Engine σ} {action next : Action σ}
    (acts : e.Acts action next after) (frames : List (Frame σ)) :
    Steers ⟨e, .act action, frames⟩ after.control := by
  cases acts with
  | perform operation => exact steers_of_perform operation next frames
  | _ => exact .stay (.refl _)

/-- An instruction that calls no component leads only where it says. -/
theorem steers_of_execute {fuel executed : Nat} {e after : Engine σ} {instruction : Instruction}
    {result : Except Failure Pacing} {mode : StepMode} {frames : List (Frame σ)}
    (begins : e.Begins executed instruction) (simple : e.calledAction? instruction = none)
    (ran : Engine.execute fuel instruction (e.record instruction) = some (result, after)) :
    Steers ⟨e, .advance mode executed, frames⟩ after.control := by
  have runs : Runs ⟨e, .advance mode executed, frames⟩ instruction := ⟨mode, executed, rfl, begins⟩
  have jumps (position : Nat) : Steers ⟨e, .advance mode executed, frames⟩
      ((e.record instruction).control.jump position) := by
    rw [Engine.control_record]
    exact .jump runs position
  cases fuel with
  | zero => simp [Engine.execute] at ran
  | succ fuel =>
    cases Engine.executed_of_execute ran with
    | refused _ _ world =>
      refine .stay ?_
      rw [Engine.control_record]
      exact .refl _
    | stored | assigned | jumped | branched => exact jumps _
    | called target =>
      have calls : Steers ⟨e, .advance mode executed, frames⟩
          ((e.record (.call target)).control.call target.toNat) := by
        rw [Engine.control_record]
        exact .call runs
      exact calls
    | returned back =>
      rw [Engine.control_record] at back
      exact .ret runs back
    | interrupted found | performed found =>
      -- such a call takes a tick of its own to enter the component
      rw [← Engine.calledAction?_record, Engine.calledAction?_callComponent found] at simple
      cases simple

/-- Every tick is one of the turns. -/
theorem Tick.turn {c next : Situation σ} (tick : Tick c next) : c.Turn next := by
  cases tick with
  | act acts => exact .steers (steers_of_acts acts _) rfl
  | askStep | askSingle | askRun | release | makeUp | defer | halt | exceed | fail | stop | pause
  | goOn | runOn | runOver | answer => exact .steers (.stay ⟨rfl, rfl, rfl, rfl⟩) rfl
  | resume unlocked finished resume => exact .steers (.resume resume) rfl
  | execute begins simple ran => exact .steers (steers_of_execute begins simple ran) rfl
  | @enter e instruction action mode executed frames begins calls =>
    cases instruction with
    | callComponent name args =>
      refine .enters ⟨mode, executed, rfl, begins⟩ ?_ rfl
      exact congrArg Control.moveOn (Engine.control_record e _)
    | _ => cases calls
  | leave => exact .leaves rfl rfl
  | rollBack e failure => exact .rollsBack ⟨failure, rfl⟩ rfl rfl

theorem engine_of_performs {c next : Situation σ} {operation : Operation σ}
    (performs : c.Performs operation) (tick : Tick c next) :
    next.engine = c.engine.perform operation ∧ next.snapshots = c.snapshots := by
  obtain ⟨e, activity, frames⟩ := c
  obtain ⟨action, same⟩ := performs
  cases same
  cases tick with
  | act acts =>
    cases acts
    exact ⟨rfl, rfl⟩

end DialogueEngine
