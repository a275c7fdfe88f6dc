import DialogueEngine.Proofs.Engine.Machine.Basic
import Mathlib.Data.Set.Basic

/-!
# The conduct of host code

What can be said about components and host functions beforehand: that something holds of all that a
component does when it is called in certain ways, and that a function makes no difference between
certain outlooks. Engines that look the same to their functions evaluate operands alike.
-/

namespace DialogueEngine

variable {σ : Type}

mutual

/-- Something holds of all acts of an action, and of those of the components that it registers, when
these are called in certain ways. -/
def Action.Throughout (holds : Action σ → Prop) (calls : Set (String × ComponentArgs)) :
    Action σ → Prop
  | .done result => holds (.done result)
  | .perform operation next =>
      holds (.perform operation next) ∧ operation.Throughout holds calls ∧
        next.Throughout holds calls
  | .react reaction next => holds (.react reaction next) ∧ next.Throughout holds calls
  | .consult next => holds (.consult next) ∧ ∀ host, (next host).Throughout holds calls
  | .observe next => holds (.observe next) ∧ ∀ view, (next view).Throughout holds calls
  | .settings next => holds (.settings next) ∧ ∀ config, (next config).Throughout holds calls
  | .records next => holds (.records next) ∧ ∀ trace, (next trace).Throughout holds calls
  | .evaluate operand embedded next =>
      holds (.evaluate operand embedded next) ∧ ∀ result, (next result).Throughout holds calls
  | .ask request next =>
      holds (.ask request next) ∧ ∀ result, (next result).Throughout holds calls

def Operation.Throughout (holds : Action σ → Prop) (calls : Set (String × ComponentArgs)) :
    Operation σ → Prop
  | .register name component =>
      ∀ args, (name, args) ∈ calls → (component args).Throughout holds calls
  | .load _ | .loadSub _ | .lock | .reset | .clearTrace | .setStatic .. | .declare ..
  | .registerFunction .. | .installEvaluator _ => True

end

theorem Action.Throughout.here {holds : Action σ → Prop} {calls : Set (String × ComponentArgs)}
    {action : Action σ} (throughout : action.Throughout holds calls) : holds action := by
  cases action with
  | done result => exact throughout
  | _ => exact throughout.1

/-- The functions that an operand calls are among some. -/
inductive Operand.Within (names : Set String) : Operand → Prop where
  | literal (value : Value) : Within names (.literal value)
  | call {function : String} {arguments : List Operand} (known : function ∈ names)
      (inner : ∀ argument ∈ arguments, Within names argument) :
      Within names (.call function arguments)

theorem Operand.within_univ (operand : Operand) : operand.Within Set.univ := by
  cases operand with
  | literal value => exact .literal value
  | call function arguments => exact .call trivial fun argument _ => within_univ argument

/-- A computation makes no difference between outlooks that are the same to it, and evaluates only
operands that call some functions. -/
def Computation.Respects (same : Outlook → Outlook → Prop) (names : Set String) :
    Computation σ → Prop
  | .done _ => True
  | .evaluate operand next => operand.Within names ∧ ∀ result, (next result).Respects same names
  | .react _ next => next.Respects same names
  | .consult next => ∀ host, (next host).Respects same names
  | .observe next =>
      (∀ outlook other, same outlook other → next other = next outlook) ∧
        ∀ outlook, (next outlook).Respects same names

/-- A function makes no difference between outlooks that are the same to it, as long as its
arguments call only some functions. -/
def HostFunction.Respects (same : Outlook → Outlook → Prop) (names : Set String)
    (function : HostFunction σ) : Prop :=
  ∀ args : List Operand, (∀ argument ∈ args, argument.Within names) →
    (function args).Respects same names

/-- A function that is registered under one of some names respects what is the same to these. -/
def Operation.Respects (same : Outlook → Outlook → Prop) (names : Set String) : Operation σ → Prop
  | .registerFunction name function => name ∈ names → function.Respects same names
  | .load _ | .loadSub _ | .lock | .reset | .clearTrace | .setStatic .. | .declare ..
  | .register .. | .installEvaluator _ => True

namespace Engine

/-- Something holds throughout the components that are registered, when these are called in certain
ways. -/
def Throughout (holds : Action σ → Prop) (calls : Set (String × ComponentArgs)) (e : Engine σ) :
    Prop :=
  ∀ name args, (name, args) ∈ calls → ∀ component, e.components.find? name = some component →
    (component args).Throughout holds calls

/-- The functions of some names make no difference between outlooks that are the same to them. -/
def Respects (same : Outlook → Outlook → Prop) (names : Set String) (e : Engine σ) : Prop :=
  ∀ name ∈ names, ∀ function, e.functions.find? name = some function →
    function.Respects same names

/-- Something holds throughout the components, and the functions of some names respect what is the
same to them. -/
structure Conducts (holds : Action σ → Prop) (calls : Set (String × ComponentArgs))
    (same : Outlook → Outlook → Prop) (names : Set String) (e : Engine σ) : Prop where
  components : e.Throughout holds calls
  functions : e.Respects same names

variable {holds : Action σ → Prop} {calls : Set (String × ComponentArgs)}
  {same : Outlook → Outlook → Prop} {names : Set String} {e f after : Engine σ}

theorem Throughout.perform {operation : Operation σ} (throughout : e.Throughout holds calls)
    (registers : operation.Throughout holds calls) :
    (e.perform operation).Throughout holds calls := by
  cases operation with
  | register registered component =>
    intro name args mem found bound
    simp only [Engine.perform, Engine.register, NameTable.find?_insert] at bound
    split at bound
    · next same =>
      cases bound
      exact registers args (same ▸ mem)
    · exact throughout name args mem found bound
  | _ => exact throughout

theorem Throughout.acts {action next : Action σ} (throughout : e.Throughout holds calls)
    (acting : action.Throughout holds calls) (acts : e.Acts action next after) :
    next.Throughout holds calls ∧ after.Throughout holds calls := by
  cases acts with
  | perform => exact ⟨acting.2.2, throughout.perform acting.2.1⟩
  | react => exact ⟨acting.2, throughout⟩
  | consult | observe | settings | records | evaluate => exact ⟨acting.2 _, throughout⟩

theorem Throughout.record (throughout : e.Throughout holds calls) (instruction : Instruction) :
    (e.record instruction).Throughout holds calls := by
  rw [Engine.record]
  split <;> exact throughout

theorem Respects.perform {operation : Operation σ} (respects : e.Respects same names)
    (registers : operation.Respects same names) : (e.perform operation).Respects same names := by
  cases operation with
  | registerFunction registered function =>
    intro name mem found bound
    simp only [Engine.perform, Engine.registerFunction, NameTable.find?_insert] at bound
    split at bound
    · next same =>
      cases bound
      exact registers (same ▸ mem)
    · exact respects name mem found bound
  | _ => exact respects

theorem Conducts.congr (conducts : e.Conducts holds calls same names)
    (components : f.components = e.components) (functions : f.functions = e.functions) :
    f.Conducts holds calls same names where
  components := by
    rw [Throughout, components]
    exact conducts.components
  functions := by
    rw [Respects, functions]
    exact conducts.functions

theorem Conducts.record (conducts : e.Conducts holds calls same names) (instruction : Instruction) :
    (e.record instruction).Conducts holds calls same names := by
  rw [Engine.record]
  split <;> exact conducts.congr rfl rfl

theorem Conducts.acts {action next : Action σ} (conducts : e.Conducts holds calls same names)
    (registers : ∀ operation next, holds (.perform operation next) →
      operation.Respects same names)
    (acting : action.Throughout holds calls) (acts : e.Acts action next after) :
    next.Throughout holds calls ∧ after.Conducts holds calls same names := by
  obtain ⟨onward, components⟩ := conducts.components.acts acting acts
  refine ⟨onward, components, ?_⟩
  cases acts with
  | perform => exact conducts.functions.perform (registers _ _ acting.here)
  | _ => exact conducts.functions

/-- An action that asks for nothing is done, or does one thing and goes on. -/
theorem acts_of_act {fuel : Nat} {action : Action σ} {result : Except Failure Pacing}
    (quiet : ∀ request next, action ≠ .ask request next)
    (acted : act (fuel + 1) action e = some (result, after)) :
    (action = .done result ∧ after = e) ∨
      ∃ next middle, e.Acts action next middle ∧ act fuel next middle = some (result, after) := by
  cases action with
  | done value =>
    rw [act] at acted
    cases acted
    exact .inl ⟨rfl, rfl⟩
  | perform | consult | observe | settings | records =>
    rw [act] at acted
    exact .inr ⟨_, _, by constructor, acted⟩
  | react reaction next =>
    rw [act] at acted
    cases reacted : reaction.run fuel e.world with
    | none => simp [reacted] at acted
    | some world =>
      simp only [reacted] at acted
      exact .inr ⟨_, _, .react reacted, acted⟩
  | evaluate operand embedded next =>
    rw [act] at acted
    cases evaluated : e.evaluateOperand fuel operand embedded with
    | none => simp [evaluated] at acted
    | some pair =>
      simp only [evaluated] at acted
      exact .inr ⟨_, _, .evaluate evaluated, acted⟩
  | ask request next => exact absurd rfl (quiet request next)

/-- Host code keeps its conduct, if it asks for nothing. -/
theorem Conducts.act {fuel : Nat} {action : Action σ} {result : Except Failure Pacing}
    (quiet : ∀ request next, ¬ holds (.ask request next))
    (registers : ∀ operation next, holds (.perform operation next) →
      operation.Respects same names)
    (conducts : e.Conducts holds calls same names) (acting : action.Throughout holds calls)
    (acted : Engine.act fuel action e = some (result, after)) :
    after.Conducts holds calls same names := by
  induction fuel generalizing action e with
  | zero => simp [Engine.act] at acted
  | succ fuel ih =>
    have asksNothing (request next) : action ≠ .ask request next := by
      rintro rfl
      exact quiet request next acting.here
    rcases acts_of_act asksNothing acted with ⟨-, rfl⟩ | ⟨next, middle, acts, rest⟩
    · exact conducts
    · obtain ⟨acting, conducts⟩ := conducts.acts registers acting acts
      exact ih conducts acting rest

/-! ## Evaluation on engines that look the same -/

/-- Two engines evaluate with the same means, and their functions see no difference. -/
structure LooksLike (same : Outlook → Outlook → Prop) (e f : Engine σ) : Prop where
  functions : f.functions = e.functions
  evaluator : f.evaluator = e.evaluator
  statics : f.statics = e.statics
  world : f.world = e.world
  outlooks (world : World σ) :
    same ({ e with world } : Engine σ).outlook ({ f with world } : Engine σ).outlook

mutual

theorem LooksLike.evaluate_eq (alike : e.LooksLike same f) (respects : e.Respects same names) :
    ∀ {fuel : Nat} {operand : Operand} {w : World σ}, operand.Within names →
      f.evaluate fuel operand w = e.evaluate fuel operand w
  | 0, _, _, _ => by simp [Engine.evaluate]
  | fuel + 1, _, _, .literal value => by simp [Engine.evaluate]
  | fuel + 1, _, w, @Operand.Within.call _ name args known inner => by
    rw [Engine.evaluate, Engine.evaluate, alike.functions]
    cases found : e.functions.find? name with
    | none => rfl
    | some function =>
      exact alike.compute_eq respects (respects name known function found args inner)

theorem LooksLike.compute_eq (alike : e.LooksLike same f) (respects : e.Respects same names) :
    ∀ {fuel : Nat} {computation : Computation σ} {w : World σ}, computation.Respects same names →
      f.compute fuel computation w = e.compute fuel computation w
  | 0, _, _, _ => by simp [Engine.compute]
  | fuel + 1, computation, w, calm => by
    cases computation with
    | done result => simp [Engine.compute]
    | evaluate operand next =>
      rw [Engine.compute, Engine.compute, alike.evaluate_eq respects calm.1]
      cases e.evaluate fuel operand w with
      | none => rfl
      | some pair => exact alike.compute_eq respects (calm.2 pair.1)
    | react reaction next =>
      rw [Engine.compute, Engine.compute]
      cases reaction.run fuel w with
      | none => rfl
      | some w => exact alike.compute_eq respects calm
    | consult next =>
      rw [Engine.compute, Engine.compute]
      exact alike.compute_eq respects (calm w.host)
    | observe next =>
      rw [Engine.compute, Engine.compute, calm.1 _ _ (alike.outlooks w)]
      exact alike.compute_eq respects (calm.2 _)

end

theorem LooksLike.evaluateOperand_eq (alike : e.LooksLike same f) (respects : e.Respects same names)
    (fuel : Nat) {operand : Operand} {embedded : Bool}
    (within : embedded = false → operand.Within names) :
    f.evaluateOperand fuel operand embedded = e.evaluateOperand fuel operand embedded := by
  rw [evaluateOperand, evaluateOperand, alike.world]
  cases embedded with
  | true =>
    have scope : f.scope = e.scope := by rw [Engine.scope, Engine.scope, alike.statics, alike.world]
    simp only [if_pos, evaluateEmbedded, alike.evaluator, scope]
  | false => exact alike.evaluate_eq respects (within rfl)

end Engine

end DialogueEngine
