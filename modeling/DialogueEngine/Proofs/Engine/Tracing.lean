import DialogueEngine.Proofs.Engine.Machine.Likeness
import DialogueEngine.Proofs.Engine.Resemblance

/-!
# Tracing

Whether an engine records what it executes, how many of the records it shows and what it has
recorded so far is nothing that its execution depends on. An engine that differs in its tracing
alone does the same and is noticed in the same way, as long as the host code makes no more of the
trace than to read and to clear it. This is asked of components and host functions alike, since both
can look at the trace.
-/

namespace DialogueEngine

variable {σ : Type}

/-- Two outlooks differ in the tracing alone. -/
structure Outlook.SameButTracing (outlook other : Outlook) : Prop where
  view : other.toView = outlook.toView
  maxBurst : other.config.maxBurst = outlook.config.maxBurst
  embedded : other.embedded = outlook.embedded

/-- A function computes the same whatever is traced. -/
def HostFunction.Heedless (function : HostFunction σ) : Prop :=
  function.Respects Outlook.SameButTracing Set.univ

/-- An operation that neither clears the trace nor registers a component, nor a function that makes
a difference between traces. -/
def Operation.Plain : Operation σ → Prop
  | .clearTrace | .register .. => False
  | .registerFunction _ function => function.Heedless
  | .load _ | .loadSub _ | .lock | .reset | .setStatic .. | .declare ..
  | .installEvaluator _ => True

/-- Two actions do the same, whatever the configuration says about tracing. Either of them may read
the trace or clear it meanwhile. -/
inductive Action.SameButTracing : Action σ → Action σ → Prop where
  | done (result : Except Failure Pacing) : SameButTracing (.done result) (.done result)
  | perform {operation : Operation σ} {next other : Action σ} (plain : operation.Plain)
      (rest : SameButTracing next other) :
      SameButTracing (.perform operation next) (.perform operation other)
  | register {component counterpart : Component σ} {next other : Action σ} (name : String)
      (calls : ∀ args, SameButTracing (component args) (counterpart args))
      (rest : SameButTracing next other) :
      SameButTracing (.perform (.register name component) next)
        (.perform (.register name counterpart) other)
  | react {next other : Action σ} (reaction : Reaction σ) (rest : SameButTracing next other) :
      SameButTracing (.react reaction next) (.react reaction other)
  | consult {next other : σ → Action σ} (rest : ∀ host, SameButTracing (next host) (other host)) :
      SameButTracing (.consult next) (.consult other)
  | observe {next other : View → Action σ}
      (rest : ∀ view, SameButTracing (next view) (other view)) :
      SameButTracing (.observe next) (.observe other)
  | settings {next other : Config → Action σ}
      (rest : ∀ config counterpart, counterpart.maxBurst = config.maxBurst →
        SameButTracing (next config) (other counterpart)) :
      SameButTracing (.settings next) (.settings other)
  | evaluate {next other : Except Failure Value → Action σ} (operand : Operand) (embedded : Bool)
      (rest : ∀ result, SameButTracing (next result) (other result)) :
      SameButTracing (.evaluate operand embedded next) (.evaluate operand embedded other)
  | ask {next other : Except Failure (Option StepOutcome) → Action σ} (request : Request)
      (rest : ∀ result, SameButTracing (next result) (other result)) :
      SameButTracing (.ask request next) (.ask request other)
  | readLeft {next : Trace → Action σ} {other : Action σ}
      (rest : ∀ trace, SameButTracing (next trace) other) : SameButTracing (.records next) other
  | readRight {action : Action σ} {other : Trace → Action σ}
      (rest : ∀ trace, SameButTracing action (other trace)) : SameButTracing action (.records other)
  | clearLeft {next other : Action σ} (rest : SameButTracing next other) :
      SameButTracing (.perform .clearTrace next) other
  | clearRight {action other : Action σ} (rest : SameButTracing action other) :
      SameButTracing action (.perform .clearTrace other)

/-- An action does the same whatever is traced. -/
def Action.Heedless (action : Action σ) : Prop := action.SameButTracing action

def Component.Heedless (component : Component σ) : Prop := ∀ args, (component args).Heedless

namespace Engine

/-- Two engines differ in their tracing alone, their components do the same and their functions
compute the same. -/
structure SameButTracing (e f : Engine σ) : Prop where
  rest : f = { e with config := f.config, trace := f.trace, components := f.components }
  maxBurst : f.config.maxBurst = e.config.maxBurst
  functions : e.Respects Outlook.SameButTracing Set.univ
  names : f.components.names = e.components.names
  components (name : String) :
    Option.Rel (fun component counterpart => ∀ args : ComponentArgs,
      (component args).SameButTracing (counterpart args))
      (e.components.find? name) (f.components.find? name)

variable {e f after : Engine σ}

namespace SameButTracing

variable (same : e.SameButTracing f)

include same

theorem control : f.control = e.control := by rw [same.rest]

theorem world : f.world = e.world := by rw [same.rest]

theorem view : f.view = e.view := by
  have names := same.names
  rw [same.rest] at names ⊢
  simp only [Engine.view, names]
  rfl

theorem outlook : e.outlook.SameButTracing f.outlook where
  view := same.view
  maxBurst := same.maxBurst
  embedded := by
    rw [same.rest]
    rfl

/-! ## What keeps engines the same -/

theorem steer (move : Control → Control) : (e.steer move).SameButTracing (f.steer move) :=
  { same with rest := congrArg (Engine.steer · move) same.rest }

theorem setWorld (world : World σ) : SameButTracing { e with world } { f with world } :=
  { same with rest := congrArg (fun g : Engine σ => { g with world }) same.rest }

theorem setTraces (trace other : Trace) :
    SameButTracing { e with trace } { f with trace := other } :=
  { same with rest := congrArg (fun g : Engine σ => { g with trace := other }) same.rest }

theorem moved (control : Control) (statics : NameTable Value) (world : World σ) :
    SameButTracing { e with control, statics, world } { f with control, statics, world } :=
  { same with rest := congrArg (fun g : Engine σ => { g with control, statics, world }) same.rest }

theorem record (instruction : Instruction) :
    (e.record instruction).SameButTracing (f.record instruction) := by
  rw [Engine.record, Engine.record]
  -- Either engine may record the instruction, or leave its trace as it is.
  split
  · split
    · exact same.setTraces _ _
    · exact same.setTraces _ f.trace
  · split
    · exact same.setTraces e.trace _
    · exact same

theorem perform {operation : Operation σ} (plain : operation.Plain) :
    (e.perform operation).SameButTracing (f.perform operation) := by
  have performed := congrArg (Engine.perform · operation) same.rest
  cases operation with
  | clearTrace | register => exact plain.elim
  | registerFunction registered function =>
    have respects : (Operation.registerFunction registered function).Respects
      Outlook.SameButTracing Set.univ := fun _ => plain
    exact ⟨performed, same.maxBurst, same.functions.perform respects, same.names, same.components⟩
  | _ => exact ⟨performed, same.maxBurst, same.functions, same.names, same.components⟩

theorem register {component counterpart : Component σ} (name : String)
    (calls : ∀ args, (component args).SameButTracing (counterpart args)) :
    (e.register name component).SameButTracing (f.register name counterpart) where
  rest := congrArg (Engine.register · name counterpart) same.rest
  maxBurst := same.maxBurst
  functions := same.functions
  names := NameTable.names_insert_congr same.names name component counterpart
  components other := by
    rw [Engine.register, Engine.register, NameTable.find?_insert, NameTable.find?_insert]
    split
    · exact .some calls
    · exact same.components other

theorem resembles : e.Resembles id Outlook.SameButTracing f where
  control := same.control
  statics := by rw [same.rest]
  world := same.world
  functions := by rw [same.rest]
  evaluator := by rw [same.rest]
  components := same.names
  subscribers := e.world.overlooks_id
  computations name function found args := by
    have heedless := same.functions name trivial function found args
    exact (heedless fun argument _ => argument.within_univ).overlooks_id
  outlooks w := (same.setWorld w).outlook

end SameButTracing

/-! ## Tracing as a likeness -/

/-- Engines and actions that are the same but for tracing. -/
def tracing : Likeness σ := ⟨SameButTracing, Action.SameButTracing⟩

open Likeness

namespace SameButTracing

theorem calledAction? (same : e.SameButTracing f) (instruction : Instruction) :
    Option.Rel Action.SameButTracing (e.calledAction? instruction)
      (f.calledAction? instruction) := by
  cases instruction with
  | callComponent name args =>
    have components := same.components name
    rw [Engine.calledAction?, Engine.calledAction?]
    generalize e.components.find? name = component at components ⊢
    generalize f.components.find? name = counterpart at components ⊢
    cases components with
    | none => exact .none
    | some calls => exact .some (calls args)
  | _ => exact .none

theorem acts {action other next : Action σ} {fuel : Nat} {notices : List (Notice σ)}
    (same : e.SameButTracing f) (actions : action.SameButTracing other)
    (acts : e.Acts action next after) (told : e.actNotices? fuel action = some notices) :
    ∃ last onward, Comes f other notices last onward ∧ after.SameButTracing last ∧
      next.SameButTracing onward := by
  induction actions generalizing f with
  | done | ask => cases acts
  | perform plain rest =>
    cases acts
    exact ⟨_, _, .of_acts fuel (.perform _ _) told, same.perform plain, rest⟩
  | register name calls rest =>
    cases acts
    exact ⟨_, _, .of_acts fuel (.perform _ _) told, same.register name calls, rest⟩
  | react reaction rest =>
    cases acts with
    | react ran =>
      rw [← same.world] at ran
      refine ⟨_, _, .of_acts fuel (.react ran) ?_, same.setWorld _, rest⟩
      exact same.resembles.actNotices_react reaction.overlooks_id told
  | consult rest =>
    cases acts
    rw [← same.world]
    exact ⟨f, _, .of_acts fuel (.consult _) told, same, rest _⟩
  | observe rest =>
    cases acts
    rw [← same.view]
    exact ⟨f, _, .of_acts fuel (.observe _) told, same, rest _⟩
  | settings rest =>
    cases acts
    exact ⟨f, _, .of_acts fuel (.settings _) told, same, rest _ _ same.maxBurst⟩
  | evaluate operand embedded rest =>
    cases acts with
    | evaluate evaluated =>
      obtain ⟨-, evaluates⟩ := same.resembles.evaluateOperand evaluated
      refine ⟨_, _, .of_acts fuel (.evaluate evaluates) ?_, same.setWorld _, rest _⟩
      exact same.resembles.actNotices_evaluate told
  | readLeft rest =>
    cases acts
    cases told
    exact ⟨f, _, .refl f _, same, rest _⟩
  | readRight rest ih =>
    obtain ⟨last, onward, comes, kept⟩ := ih f.trace same acts told
    exact ⟨last, onward, comes.head (.records _) rfl, kept⟩
  | clearLeft rest =>
    cases acts
    cases told
    exact ⟨f, _, .refl f _, same.setTraces _ f.trace, rest⟩
  | clearRight rest ih =>
    obtain ⟨last, onward, comes, kept⟩ := ih (same.setTraces e.trace f.trace.clear) acts told
    exact ⟨last, onward, comes.head (.perform _ _) rfl, kept⟩

theorem done {result : Except Failure Pacing} {action other : Action σ}
    (same : e.SameButTracing f) (actions : action.SameButTracing other)
    (finished : action = .done result) :
    ∃ last, Comes f other [] last (.done result) ∧ e.SameButTracing last := by
  induction actions generalizing f with
  | done =>
    cases finished
    exact ⟨f, .refl f _, same⟩
  | readRight rest ih =>
    obtain ⟨last, comes, kept⟩ := ih f.trace same finished
    exact ⟨last, comes.head (.records _) rfl, kept⟩
  | clearRight rest ih =>
    obtain ⟨last, comes, kept⟩ := ih (same.setTraces e.trace f.trace.clear) finished
    exact ⟨last, comes.head (.perform _ _) rfl, kept⟩
  | _ => cases finished

theorem ask {request : Request} {action other : Action σ}
    {next : Except Failure (Option StepOutcome) → Action σ} (same : e.SameButTracing f)
    (actions : action.SameButTracing other) (asking : action = .ask request next) :
    ∃ last onward, Comes f other [] last (.ask request onward) ∧ e.SameButTracing last ∧
      ∀ result, (next result).SameButTracing (onward result) := by
  induction actions generalizing f with
  | ask _ rest =>
    cases asking
    exact ⟨f, _, .refl f _, same, rest⟩
  | readRight rest ih =>
    obtain ⟨last, onward, comes, kept⟩ := ih f.trace same asking
    exact ⟨last, onward, comes.head (.records _) rfl, kept⟩
  | clearRight rest ih =>
    obtain ⟨last, onward, comes, kept⟩ := ih (same.setTraces e.trace f.trace.clear) asking
    exact ⟨last, onward, comes.head (.perform _ _) rfl, kept⟩
  | _ => cases asking

end SameButTracing

end Engine

open Engine

/-- Whether steps have a limit, which has nothing to do with tracing. -/
def limited : HostFunction Nat := fun _ =>
  .observe fun outlook => .pure (.bool outlook.config.maxBurst.isSome)

end DialogueEngine
