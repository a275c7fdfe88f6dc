import DialogueEngine.Engine.Action

/-!
# Engines

An engine is a control state together with variables, what the host has registered, and a trace.
-/

namespace DialogueEngine

structure Engine (σ : Type) where
  config : Config := {}
  control : Control := {}
  statics : NameTable Value := .empty
  world : World σ
  components : NameTable (Component σ) := .empty
  functions : NameTable (HostFunction σ) := .empty
  evaluator : Option Evaluator := none
  trace : Trace := .empty

namespace Engine

variable {σ : Type}

/-- An engine without a program, for a host in a given state. -/
def new (config : Config) (host : σ) : Engine σ :=
  { config, world := { host }, trace := { capacity := config.traceCapacity } }

variable (e : Engine σ)

def halted : Bool := e.control.halted

def scope : Scope := ⟨e.statics, e.world.reactives.map ReactiveVariable.value⟩

def view : View where
  control := e.control
  scope := e.scope
  subscriberCounts := e.world.reactives.map ReactiveVariable.subscriberCount
  components := e.components.names
  functions := e.functions.names
  hasEvaluator := e.evaluator.isSome

/-- Changes the control state. -/
def steer (f : Control → Control) : Engine σ := { e with control := f e.control }

def setStatic (name : String) (value : Value) : Engine σ :=
  { e with statics := e.statics.insert name value }

def register (name : String) (component : Component σ) : Engine σ :=
  { e with components := e.components.insert name component }

def registerFunction (name : String) (function : HostFunction σ) : Engine σ :=
  { e with functions := e.functions.insert name function }

def registerFunctions (functions : List (String × HostFunction σ)) : Engine σ :=
  functions.foldl (fun e function => e.registerFunction function.1 function.2) e

/-- Records the next instruction, if tracing is enabled. -/
def record (instruction : Instruction) : Engine σ :=
  if e.config.traceEnabled then
    { e with trace := e.trace.push e.control.position e.control.depth instruction }
  else e

def perform : Operation σ → Engine σ
  | .load program => e.steer (·.load program)
  | .loadSub program => e.steer (·.loadSub program)
  | .lock => e.steer Control.lock
  | .reset => e.steer Control.reset
  | .clearTrace => { e with trace := e.trace.clear }
  | .setStatic name value => e.setStatic name value
  | .declare name initial => { e with world := e.world.declare name initial }
  | .register name component => e.register name component
  | .registerFunction name function => e.registerFunction name function
  | .installEvaluator evaluator => { e with evaluator := some evaluator }

end Engine

end DialogueEngine
