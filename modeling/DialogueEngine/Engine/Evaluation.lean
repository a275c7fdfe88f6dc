import DialogueEngine.Engine.Basic
import DialogueEngine.Variables.Notification

/-!
# Evaluation of operands

A literal is its own value; a call goes to the host function of that name. Evaluation changes
nothing of an engine but the world. It recurses by fuel, and is `none` when that runs out.
-/

namespace DialogueEngine

namespace Engine

variable {σ : Type} (e : Engine σ)

/-- Evaluates the source text that an operand consists of. -/
def evaluateEmbedded (operand : Operand) : Except Failure Value :=
  match e.evaluator with
  | none => .error ⟨.embeddedUnavailable, none⟩
  | some evaluator =>
      match operand with
      | .literal (.string source) => evaluator source e.scope
      | .literal value => .error ⟨.typeMismatch .string value.kind, none⟩
      | .call .. => .error ⟨.typeMismatch .string .any, none⟩

def outlook : Outlook :=
  { e.view with config := e.config, trace := e.trace, embedded := e.evaluateEmbedded }

mutual

def evaluate : Nat → Operand → World σ → Option (Except Failure Value × World σ)
  | 0, _, _ => none
  | fuel + 1, operand, w =>
      match operand with
      | .literal value => some (.ok value, w)
      | .call name args =>
          match e.functions.find? name with
          | none => some (.error ⟨.unknownFunction name, none⟩, w)
          | some function => compute fuel (function args) w

def compute : Nat → Computation σ → World σ → Option (Except Failure Value × World σ)
  | 0, _, _ => none
  | fuel + 1, computation, w =>
      match computation with
      | .done result => some (result, w)
      | .evaluate operand next =>
          match evaluate fuel operand w with
          | none => none
          | some (result, w) => compute fuel (next result) w
      | .react reaction next =>
          match reaction.run fuel w with
          | none => none
          | some w => compute fuel next w
      | .consult next => compute fuel (next w.host) w
      | .observe next => compute fuel (next { e with world := w }.outlook) w

end

/-- Evaluates the operand of an instruction. -/
def evaluateOperand (fuel : Nat) (operand : Operand) (embedded : Bool) :
    Option (Except Failure Value × World σ) :=
  if embedded then some (e.evaluateEmbedded operand, e.world)
  else e.evaluate fuel operand e.world

end Engine

end DialogueEngine
