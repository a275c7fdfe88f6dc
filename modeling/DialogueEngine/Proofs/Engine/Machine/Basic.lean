import DialogueEngine.Engine.Stepping
import Mathlib.Logic.Relation

/-!
# Stepping, tick by tick

An engine at work as a machine that does one thing at a time: an effect of a component or of the
host, an instruction, the return to a suspended program. What has been begun and is not over yet
stands on a stack of frames, the innermost in front. The machine comes to the same results as the
functions that recurse by fuel; unlike them it also shows what happens on the way, in runs without
an end as well.
-/

namespace DialogueEngine

/-- Something that has been begun and waits for what is under way. -/
inductive Frame (σ : Type) where
  /-- A component or the host, for the answer to its request. -/
  | request (next : Except Failure (Option StepOutcome) → Action σ)
  /-- A run, for one of its steps. -/
  | run
  /-- A step, for the instruction that it executes. -/
  | step (mode : StepMode) (executed : Nat) (instruction : Instruction) (position : Nat)
  /-- An instruction, for the component that it calls. The control state from before is put back if
  the component fails. -/
  | component (before : Control)

/-- What is under way. -/
inductive Activity (σ : Type) where
  /-- A component acts, or the host does. -/
  | act (action : Action σ)
  /-- A step goes on. -/
  | advance (mode : StepMode) (executed : Nat)
  /-- An instruction is over. -/
  | executed (result : Except Failure Pacing)
  /-- A step or a run is over. -/
  | stepped (result : Except Failure StepOutcome)

structure Situation (σ : Type) where
  engine : Engine σ
  activity : Activity σ
  frames : List (Frame σ)

/-- Whether a run goes on after a step with this result. -/
def StepOutcome.runsOn : Except Failure StepOutcome → Bool
  | .ok .paused | .ok .stepped => true
  | _ => false

namespace Engine

variable {σ : Type}

/-- An instruction is about to be executed in a step. -/
structure Begins (e : Engine σ) (executed : Nat) (instruction : Instruction) : Prop where
  unlocked : e.control.locked = false
  next : e.control.instruction? = some instruction
  within : e.config.reachedLimit? executed = none

/-- What a component does that an instruction calls, if the component is known. -/
def calledAction? (e : Engine σ) : Instruction → Option (Action σ)
  | .callComponent name args => (e.components.find? name).map fun component => component args
  | _ => none

theorem calledAction?_record (e : Engine σ) (instruction : Instruction) :
    (e.record instruction).calledAction? instruction = e.calledAction? instruction := by
  rw [record]
  split <;> rfl

theorem calledAction?_callComponent {e : Engine σ} {name : String} {component : Component σ}
    (found : e.components.find? name = some component) (args : ComponentArgs) :
    e.calledAction? (.callComponent name args) = some (component args) := by
  simp [calledAction?, found]

/-- An effect of a component or of the host that asks for no step. -/
inductive Acts (e : Engine σ) : Action σ → Action σ → Engine σ → Prop where
  | perform (operation : Operation σ) (next : Action σ) :
      Acts e (.perform operation next) next (e.perform operation)
  | react {fuel : Nat} {reaction : Reaction σ} {next : Action σ} {world : World σ}
      (ran : reaction.run fuel e.world = some world) :
      Acts e (.react reaction next) next { e with world }
  | consult (next : σ → Action σ) : Acts e (.consult next) (next e.world.host) e
  | observe (next : View → Action σ) : Acts e (.observe next) (next e.view) e
  | settings (next : Config → Action σ) : Acts e (.settings next) (next e.config) e
  | records (next : Trace → Action σ) : Acts e (.records next) (next e.trace) e
  | evaluate {fuel : Nat} {operand : Operand} {embedded : Bool}
      {next : Except Failure Value → Action σ} {result : Except Failure Value} {world : World σ}
      (evaluated : e.evaluateOperand fuel operand embedded = some (result, world)) :
      Acts e (.evaluate operand embedded next) (next result) { e with world }

end Engine

open Engine in
/-- One thing is done. -/
inductive Tick {σ : Type} : Situation σ → Situation σ → Prop where
  | act {e after : Engine σ} {action next : Action σ} {frames : List (Frame σ)}
      (acts : e.Acts action next after) :
      Tick ⟨e, .act action, frames⟩ ⟨after, .act next, frames⟩
  | askStep (e : Engine σ) (next : Except Failure (Option StepOutcome) → Action σ)
      (frames : List (Frame σ)) :
      Tick ⟨e, .act (.ask .step next), frames⟩ ⟨e, .advance .burst 0, .request next :: frames⟩
  | askSingle (e : Engine σ) (next : Except Failure (Option StepOutcome) → Action σ)
      (frames : List (Frame σ)) :
      Tick ⟨e, .act (.ask .stepSingle next), frames⟩
        ⟨e, .advance .single 0, .request next :: frames⟩
  | askRun (e : Engine σ) (next : Except Failure (Option StepOutcome) → Action σ)
      (frames : List (Frame σ)) :
      Tick ⟨e, .act (.ask .run next), frames⟩
        ⟨e, .advance .burst 0, .run :: .request next :: frames⟩
  | release {e : Engine σ} (next : Except Failure (Option StepOutcome) → Action σ)
      (frames : List (Frame σ)) (idle : e.control.pending = none) :
      Tick ⟨e, .act (.ask .unlock next), frames⟩
        ⟨e.steer Control.unlock, .act (next (.ok none)), frames⟩
  | makeUp {e : Engine σ} {mode : StepMode} (next : Except Failure (Option StepOutcome) → Action σ)
      (frames : List (Frame σ)) (pending : e.control.pending = some mode) :
      Tick ⟨e, .act (.ask .unlock next), frames⟩
        ⟨e.steer Control.unlock, .advance mode 0, .request next :: frames⟩
  | defer {e : Engine σ} {mode : StepMode} {executed : Nat} {frames : List (Frame σ)}
      (locked : e.control.locked = true) :
      Tick ⟨e, .advance mode executed, frames⟩
        ⟨e.steer (·.defer mode), .stepped (.ok .deferred), frames⟩
  | halt {e : Engine σ} {mode : StepMode} {executed : Nat} {frames : List (Frame σ)}
      (unlocked : e.control.locked = false) (finished : e.control.instruction? = none)
      (last : e.control.resume? = none) :
      Tick ⟨e, .advance mode executed, frames⟩ ⟨e, .stepped (.ok .halted), frames⟩
  | resume {e : Engine σ} {control : Control} {mode : StepMode} {executed : Nat}
      {frames : List (Frame σ)} (unlocked : e.control.locked = false)
      (finished : e.control.instruction? = none) (resume : e.control.resume? = some control) :
      Tick ⟨e, .advance mode executed, frames⟩ ⟨{ e with control }, .advance mode executed, frames⟩
  | exceed {e : Engine σ} {instruction : Instruction} {limit : Nat} {mode : StepMode}
      {executed : Nat} {frames : List (Frame σ)} (unlocked : e.control.locked = false)
      (next : e.control.instruction? = some instruction)
      (reached : e.config.reachedLimit? executed = some limit) :
      Tick ⟨e, .advance mode executed, frames⟩
        ⟨e, .stepped
          (.error (Failure.within ⟨.burstExceeded limit, none⟩ { stack := e.control.frames })),
          frames⟩
  /-- An instruction is executed at once, unless it calls a component. -/
  | execute {e after : Engine σ} {instruction : Instruction} {fuel : Nat}
      {result : Except Failure Pacing} {mode : StepMode} {executed : Nat} {frames : List (Frame σ)}
      (begins : e.Begins executed instruction) (simple : e.calledAction? instruction = none)
      (ran : Engine.execute fuel instruction (e.record instruction) = some (result, after)) :
      Tick ⟨e, .advance mode executed, frames⟩
        ⟨after, .executed result, .step mode executed instruction e.control.position :: frames⟩
  | enter {e : Engine σ} {instruction : Instruction} {action : Action σ} {mode : StepMode}
      {executed : Nat} {frames : List (Frame σ)} (begins : e.Begins executed instruction)
      (calls : e.calledAction? instruction = some action) :
      Tick ⟨e, .advance mode executed, frames⟩
        ⟨(e.record instruction).steer Control.moveOn, .act action,
          .component e.control :: .step mode executed instruction e.control.position :: frames⟩
  | leave (e : Engine σ) (pacing : Pacing) (before : Control) (frames : List (Frame σ)) :
      Tick ⟨e, .act (.done (.ok pacing)), .component before :: frames⟩
        ⟨e, .executed (.ok pacing), frames⟩
  | rollBack (e : Engine σ) (failure : Failure) (before : Control) (frames : List (Frame σ)) :
      Tick ⟨e, .act (.done (.error failure)), .component before :: frames⟩
        ⟨{ e with control := before }, .executed (.error failure), frames⟩
  | fail (e : Engine σ) (failure : Failure) (mode : StepMode) (executed : Nat)
      (instruction : Instruction) (position : Nat) (frames : List (Frame σ)) :
      Tick ⟨e, .executed (.error failure), .step mode executed instruction position :: frames⟩
        ⟨e, .stepped (.error (failure.within (e.control.contextOf instruction position))), frames⟩
  | stop (e : Engine σ) (pacing : Pacing) (executed : Nat) (instruction : Instruction)
      (position : Nat) (frames : List (Frame σ)) :
      Tick ⟨e, .executed (.ok pacing), .step .single executed instruction position :: frames⟩
        ⟨e, .stepped (.ok .stepped), frames⟩
  | pause (e : Engine σ) (executed : Nat) (instruction : Instruction) (position : Nat)
      (frames : List (Frame σ)) :
      Tick ⟨e, .executed (.ok .pause), .step .burst executed instruction position :: frames⟩
        ⟨e, .stepped (.ok .paused), frames⟩
  | goOn (e : Engine σ) (executed : Nat) (instruction : Instruction) (position : Nat)
      (frames : List (Frame σ)) :
      Tick ⟨e, .executed (.ok .proceed), .step .burst executed instruction position :: frames⟩
        ⟨e, .advance .burst (executed + 1), frames⟩
  | runOn {e : Engine σ} {result : Except Failure StepOutcome} {frames : List (Frame σ)}
      (runsOn : StepOutcome.runsOn result = true) :
      Tick ⟨e, .stepped result, .run :: frames⟩ ⟨e, .advance .burst 0, .run :: frames⟩
  | runOver {e : Engine σ} {result : Except Failure StepOutcome} {frames : List (Frame σ)}
      (stops : StepOutcome.runsOn result = false) :
      Tick ⟨e, .stepped result, .run :: frames⟩ ⟨e, .stepped result, frames⟩
  | answer (e : Engine σ) (result : Except Failure StepOutcome)
      (next : Except Failure (Option StepOutcome) → Action σ) (frames : List (Frame σ)) :
      Tick ⟨e, .stepped result, .request next :: frames⟩
        ⟨e, .act (next (result.map some)), frames⟩

/-- Things are done one after the other. -/
abbrev Ticks {σ : Type} : Situation σ → Situation σ → Prop := Relation.ReflTransGen Tick

end DialogueEngine
