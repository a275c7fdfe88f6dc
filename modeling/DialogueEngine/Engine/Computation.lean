import DialogueEngine.Engine.Config
import DialogueEngine.Engine.Trace
import DialogueEngine.Engine.View
import DialogueEngine.Failure
import DialogueEngine.Variables.Reactive

/-!
# Host functions

A host function gets its arguments unevaluated and computes a value from them. It sees the engine
but does not change it; it may let the engine evaluate operands, change the state of the host, and
react as a subscriber does.
-/

namespace DialogueEngine

/-- All that a host function sees of an engine. -/
structure Outlook extends View where
  config : Config
  trace : Trace
  /-- What the source text that an operand consists of evaluates to. -/
  embedded : Operand → Except Failure Value

/-- What a host function does, for a host with states in `σ`. -/
inductive Computation (σ : Type) where
  | done (result : Except Failure Value)
  | evaluate (operand : Operand) (next : Except Failure Value → Computation σ)
  | react (reaction : Reaction σ) (next : Computation σ)
  | consult (next : σ → Computation σ)
  | observe (next : Outlook → Computation σ)

abbrev HostFunction (σ : Type) := List Operand → Computation σ

namespace Computation

variable {σ : Type}

def pure (value : Value) : Computation σ := .done (.ok value)

def fail (failure : Failure) : Computation σ := .done (.error failure)

/-- Evaluates an operand and fails if that fails. -/
def value (operand : Operand) (next : Value → Computation σ) : Computation σ :=
  .evaluate operand fun
    | .ok value => next value
    | .error failure => fail failure

/-- Evaluates operands from left to right. -/
def values : List Operand → (List Value → Computation σ) → Computation σ
  | [], next => next []
  | operand :: rest, next =>
      value operand fun first => values rest fun others => next (first :: others)

/-- Refuses a number of arguments. -/
def wrongArity (expected name : String) (args : List Operand) : Computation σ :=
  fail ⟨.arityMismatch (expected ++ " for " ++ name) args.length, none⟩

/-- Evaluates the only argument. The number of arguments is checked first. -/
def one (name : String) (args : List Operand) (next : Value → Computation σ) : Computation σ :=
  match args with
  | [a] => value a next
  | _ => wrongArity "1" name args

/-- Evaluates both arguments. The number of arguments is checked first. -/
def two (name : String) (args : List Operand) (next : Value → Value → Computation σ) :
    Computation σ :=
  match args with
  | [a, b] => value a fun x => value b fun y => next x y
  | _ => wrongArity "2" name args

end Computation

end DialogueEngine
