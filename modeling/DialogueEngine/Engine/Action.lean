import DialogueEngine.Engine.Computation

/-!
# Components

A component is what the host does when a program calls it: an `Action` on the engine, which ends
with a failure or with the pace at which the engine is to go on. Among other things an action may
load programs, lock the engine and ask it to step.
-/

namespace DialogueEngine

/-- What a component asks for when it is done. -/
inductive Pacing where
  | proceed
  | pause
deriving DecidableEq, Inhabited

/-- Why a step is over. -/
inductive StepOutcome where
  /-- There is no instruction left, and no program to go on with. -/
  | halted
  /-- A component asked for a pause. -/
  | paused
  /-- The one instruction that was asked for is done. -/
  | stepped
  /-- The engine is locked; the request is noted. -/
  | deferred
deriving DecidableEq, Inhabited

/-- What an engine can be asked to do that executes instructions. -/
inductive Request where
  | step
  | stepSingle
  /-- Steps on through all pauses. -/
  | run
  /-- Opens the lock, and makes up for a step that was asked for meanwhile. -/
  | unlock
deriving DecidableEq

/-- Evaluates the source text of an embedded expression. -/
abbrev Evaluator := String → Scope → Except Failure Value

mutual

/-- A change of an engine that executes nothing and cannot fail. -/
inductive Operation (σ : Type) where
  | load (program : Program)
  | loadSub (program : Program)
  | lock
  | reset
  | clearTrace
  | setStatic (name : String) (value : Value)
  | declare (name : String) (initial : Value)
  | register (name : String) (component : ComponentArgs → Action σ)
  | registerFunction (name : String) (function : HostFunction σ)
  | installEvaluator (evaluator : Evaluator)

/-- What a component does, for a host with states in `σ`. -/
inductive Action (σ : Type) where
  | done (result : Except Failure Pacing)
  | perform (operation : Operation σ) (next : Action σ)
  | react (reaction : Reaction σ) (next : Action σ)
  | consult (next : σ → Action σ)
  | observe (next : View → Action σ)
  | settings (next : Config → Action σ)
  | records (next : Trace → Action σ)
  | evaluate (operand : Operand) (embedded : Bool) (next : Except Failure Value → Action σ)
  | ask (request : Request) (next : Except Failure (Option StepOutcome) → Action σ)

end

instance {σ : Type} : Inhabited (Action σ) := ⟨.done (.ok .proceed)⟩

abbrev Component (σ : Type) := ComponentArgs → Action σ

end DialogueEngine
