import DialogueEngine.Proofs.Engine.Machine.Simulation
import DialogueEngine.Proofs.Variables.Chronicle

/-!
# What is noticed

Ticks together with what the host notices of them: the calls of components and host functions, what
happens to the reactive variables, and what comes of all that the engine is asked for.
-/

namespace DialogueEngine

variable {σ : Type}

/-- Something that the host notices. -/
inductive Notice (σ : Type) where
  | component (name : String) (args : ComponentArgs)
  /-- A component is done. -/
  | concluded (result : Except Failure Pacing)
  | function (name : String) (args : List Operand)
  | reactive (event : Event σ)
  /-- The host has let an operand be evaluated. -/
  | evaluated (result : Except Failure Value)
  /-- A request has been answered. -/
  | answered (result : Except Failure (Option StepOutcome))

/-- What an evaluation comes to, and what is noticed of it. -/
structure Recital (σ : Type) where
  result : Except Failure Value
  world : World σ
  notices : List (Notice σ) := []

namespace Recital

def outcome (recital : Recital σ) : Except Failure Value × World σ :=
  (recital.result, recital.world)

def after (earlier : List (Notice σ)) (recital : Recital σ) : Recital σ :=
  { recital with notices := earlier ++ recital.notices }

theorem map_outcome_after (earlier : List (Notice σ)) (recital : Option (Recital σ)) :
    (recital.map (after earlier)).map outcome = recital.map outcome := by
  cases recital <;> rfl

end Recital

def Chronicle.notices (c : Chronicle σ) : List (Notice σ) := c.events.map .reactive

namespace Engine

variable (e : Engine σ)

/-! ## Evaluation -/

mutual

/-- Evaluates an operand and tells what is noticed. -/
def recite : Nat → Operand → World σ → Option (Recital σ)
  | 0, _, _ => none
  | fuel + 1, operand, w =>
      match operand with
      | .literal value => some ⟨.ok value, w, []⟩
      | .call name args =>
          match e.functions.find? name with
          | none => some ⟨.error ⟨.unknownFunction name, none⟩, w, []⟩
          | some function =>
              (reciteComputation fuel (function args) w).map (.after [.function name args])

def reciteComputation : Nat → Computation σ → World σ → Option (Recital σ)
  | 0, _, _ => none
  | fuel + 1, computation, w =>
      match computation with
      | .done result => some ⟨result, w, []⟩
      | .evaluate operand next =>
          match recite fuel operand w with
          | none => none
          | some first =>
              (reciteComputation fuel (next first.result) first.world).map (.after first.notices)
      | .react reaction next =>
          match reaction.follow fuel ⟨w, []⟩ with
          | none => none
          | some c => (reciteComputation fuel next c.world).map (.after c.notices)
      | .consult next => reciteComputation fuel (next w.host) w
      | .observe next => reciteComputation fuel (next { e with world := w }.outlook) w

end

mutual

theorem map_outcome_recite : ∀ (fuel : Nat) (operand : Operand) (w : World σ),
    (e.recite fuel operand w).map Recital.outcome = e.evaluate fuel operand w
  | 0, _, _ => by simp [recite, evaluate]
  | fuel + 1, operand, w => by
    cases operand with
    | literal value => simp [recite, evaluate, Recital.outcome]
    | call name args =>
      rw [recite, evaluate]
      cases e.functions.find? name with
      | none => rfl
      | some function =>
        rw [Recital.map_outcome_after]
        exact map_outcome_reciteComputation fuel (function args) w

theorem map_outcome_reciteComputation :
    ∀ (fuel : Nat) (computation : Computation σ) (w : World σ),
      (e.reciteComputation fuel computation w).map Recital.outcome = e.compute fuel computation w
  | 0, _, _ => by simp [reciteComputation, compute]
  | fuel + 1, computation, w => by
    cases computation with
    | done result => simp [reciteComputation, compute, Recital.outcome]
    | evaluate operand next =>
      rw [reciteComputation, compute, ← map_outcome_recite fuel operand w]
      cases e.recite fuel operand w with
      | none => rfl
      | some first =>
        rw [Recital.map_outcome_after]
        exact map_outcome_reciteComputation fuel (next first.result) first.world
    | react reaction next =>
      rw [reciteComputation, compute, ← Reaction.map_world_follow fuel reaction ⟨w, []⟩]
      cases reaction.follow fuel ⟨w, []⟩ with
      | none => rfl
      | some c =>
        rw [Recital.map_outcome_after]
        exact map_outcome_reciteComputation fuel next c.world
    | consult next | observe next =>
      rw [reciteComputation, compute]
      exact map_outcome_reciteComputation fuel _ w

end

/-- Evaluates the operand of an instruction and tells what is noticed. An embedded expression calls
no host functions. -/
def reciteOperand (fuel : Nat) (operand : Operand) (embedded : Bool) : Option (Recital σ) :=
  if embedded then some ⟨e.evaluateEmbedded operand, e.world, []⟩
  else e.recite fuel operand e.world

theorem map_outcome_reciteOperand (fuel : Nat) (operand : Operand) (embedded : Bool) :
    (e.reciteOperand fuel operand embedded).map Recital.outcome =
      e.evaluateOperand fuel operand embedded := by
  rw [reciteOperand, evaluateOperand]
  split
  · rfl
  · exact e.map_outcome_recite fuel operand e.world

theorem exists_recital {fuel : Nat} {operand : Operand} {embedded : Bool}
    {result : Except Failure Value} {world : World σ}
    (evaluated : e.evaluateOperand fuel operand embedded = some (result, world)) :
    ∃ notices, e.reciteOperand fuel operand embedded = some ⟨result, world, notices⟩ := by
  rw [← map_outcome_reciteOperand] at evaluated
  obtain ⟨⟨_, _, notices⟩, recited, same⟩ := Option.map_eq_some_iff.mp evaluated
  cases same
  exact ⟨notices, recited⟩

/-! ## Ticks -/

/-- What is noticed of an instruction before it is over, or before the component acts that it
calls. It is `none` when the fuel runs out. -/
def notices? (fuel : Nat) : Instruction → Option (List (Notice σ))
  | .setStatic _ operand embedded | .condGoto _ operand embedded =>
      (e.reciteOperand fuel operand embedded).map Recital.notices
  | .setReactive name operand embedded =>
      if e.world.reactives.contains name then
        match e.reciteOperand fuel operand embedded with
        | none => none
        | some ⟨.error _, _, notices⟩ => some notices
        | some ⟨.ok value, world, notices⟩ =>
            (Chronicle.assign fuel ⟨world, []⟩ name value).map (notices ++ ·.notices)
      else some []
  | .callComponent name args =>
      some (if e.components.contains name then [.component name args] else [])
  | .goto _ | .call _ | .ret => some []

/-- The instruction that is about to be executed in a step. -/
def begun? (executed : Nat) : Option Instruction :=
  if e.control.locked ∨ (e.config.reachedLimit? executed).isSome then none
  else e.control.instruction?

theorem begun?_eq_some_iff {executed : Nat} {instruction : Instruction} :
    e.begun? executed = some instruction ↔ e.Begins executed instruction := by
  rw [begun?]
  constructor
  · intro begun
    obtain ⟨free, next⟩ := Option.ite_none_left_eq_some.mp begun
    rw [not_or, Bool.not_eq_true, Bool.not_eq_true, Option.isSome_eq_false_iff,
      Option.isNone_iff_eq_none] at free
    exact ⟨free.1, next, free.2⟩
  · rintro ⟨unlocked, next, within⟩
    simp [unlocked, next, within]

/-- What is noticed of the next thing that the host does, or a component. -/
def actNotices? (fuel : Nat) : Action σ → Option (List (Notice σ))
  | .react reaction _ => (reaction.follow fuel ⟨e.world, []⟩).map Chronicle.notices
  | .evaluate operand embedded _ =>
      (e.reciteOperand fuel operand embedded).map fun recital =>
        recital.notices ++ [.evaluated recital.result]
  | .ask .unlock _ => some (if e.control.pending = none then [.answered (.ok none)] else [])
  | _ => some []

end Engine

namespace Situation

/-- What is noticed of the next tick. -/
def notices? (fuel : Nat) (c : Situation σ) : Option (List (Notice σ)) :=
  match c.activity, c.frames with
  | .act (.done result), .component _ :: _ => some [.concluded result]
  | .act action, _ => c.engine.actNotices? fuel action
  | .advance _ executed, _ =>
      match c.engine.begun? executed with
      | some instruction => (c.engine.record instruction).notices? fuel instruction
      | none => some []
  | .stepped result, .request _ :: _ => some [.answered (result.map some)]
  | _, _ => some []

/-- The next tick is noticed so, with some fuel. -/
def Tells (c : Situation σ) (notices : List (Notice σ)) : Prop :=
  ∃ fuel, c.notices? fuel = some notices

end Situation

open Situation

/-- Things are done one after the other and noticed so. -/
inductive Leads : Situation σ → List (Notice σ) → Situation σ → Prop where
  | refl (c : Situation σ) : Leads c [] c
  | tail {c middle next : Situation σ} {notices more : List (Notice σ)}
      (leads : Leads c notices middle) (tells : middle.Tells more) (tick : Tick middle next) :
      Leads c (notices ++ more) next

namespace Leads

variable {c middle next : Situation σ} {notices more : List (Notice σ)}

theorem single (tells : c.Tells notices) (tick : Tick c next) : Leads c notices next :=
  .tail (.refl c) tells tick

theorem trans (first : Leads c notices middle) (second : Leads middle more next) :
    Leads c (notices ++ more) next := by
  induction second with
  | refl => rwa [List.append_nil]
  | tail _ tells tick ih =>
    rw [← List.append_assoc]
    exact ih.tail tells tick

theorem ticks (leads : Leads c notices next) : Ticks c next := by
  induction leads with
  | refl => exact .refl
  | tail _ _ tick ih => exact ih.tail tick

end Leads

/-! ## Every tick can be noticed -/

theorem Engine.exists_actNotices {e after : Engine σ} {action next : Action σ}
    (acts : e.Acts action next after) :
    ∃ fuel notices, e.actNotices? fuel action = some notices := by
  cases acts with
  | perform | consult | observe | settings | records => exact ⟨0, [], rfl⟩
  | @react fuel reaction _ _ ran =>
    obtain ⟨events, followed⟩ := Reaction.follow_of_run ran
    exact ⟨fuel, _, by rw [actNotices?, followed, Option.map_some]⟩
  | @evaluate fuel _ _ _ _ _ evaluated =>
    obtain ⟨notices, recited⟩ := e.exists_recital evaluated
    exact ⟨fuel, _, by rw [actNotices?, recited, Option.map_some]⟩

theorem Engine.exists_notices {e after : Engine σ} {fuel : Nat} {instruction : Instruction}
    {result : Except Failure Pacing} (ran : execute fuel instruction e = some (result, after)) :
    ∃ more notices, e.notices? more instruction = some notices := by
  cases fuel with
  | zero => simp [execute] at ran
  | succ fuel =>
    cases instruction with
    | setStatic name operand embedded | condGoto target operand embedded =>
      cases evaluated : e.evaluateOperand fuel operand embedded with
      | none => simp [execute, evaluated] at ran
      | some pair =>
        obtain ⟨notices, recited⟩ := e.exists_recital evaluated
        exact ⟨fuel, notices, by rw [notices?, recited, Option.map_some]⟩
    | setReactive name operand embedded =>
      rw [execute] at ran
      split at ran
      · next declared =>
        cases evaluated : e.evaluateOperand fuel operand embedded with
        | none => simp [evaluated] at ran
        | some pair =>
          obtain ⟨outcome, world⟩ := pair
          obtain ⟨notices, recited⟩ := e.exists_recital evaluated
          simp only [evaluated] at ran
          cases outcome with
          | error failure => exact ⟨fuel, notices, by simp [notices?, declared, recited]⟩
          | ok value =>
            cases assigned : world.assign fuel name value with
            | none => simp [assigned] at ran
            | some last =>
              rw [← Chronicle.map_world_assign fuel ⟨world, []⟩] at assigned
              obtain ⟨c, followed, -⟩ := Option.map_eq_some_iff.mp assigned
              exact ⟨fuel, notices ++ c.notices,
                by simp [notices?, declared, recited, followed]⟩
      · next undeclared => exact ⟨fuel, [], by simp [notices?, undeclared]⟩
    | goto | call | ret | callComponent => exact ⟨0, _, rfl⟩

namespace Situation

variable {e : Engine σ} {frames : List (Frame σ)} {mode : StepMode} {executed fuel : Nat}

theorem notices?_act {after : Engine σ} {action next : Action σ}
    (acts : e.Acts action next after) :
    notices? fuel ⟨e, .act action, frames⟩ = e.actNotices? fuel action := by
  cases acts <;> rfl

theorem notices?_begun {instruction : Instruction} (begins : e.Begins executed instruction) :
    notices? fuel ⟨e, .advance mode executed, frames⟩ =
      (e.record instruction).notices? fuel instruction := by
  simp only [notices?, e.begun?_eq_some_iff.mpr begins]

theorem notices?_not_begun (idle : e.begun? executed = none) :
    notices? fuel ⟨e, .advance mode executed, frames⟩ = some [] := by
  simp only [notices?, idle]

end Situation

theorem Tick.tells {c next : Situation σ} (tick : Tick c next) : ∃ notices, c.Tells notices := by
  cases tick with
  | act acts =>
    obtain ⟨fuel, notices, told⟩ := Engine.exists_actNotices acts
    exact ⟨notices, fuel, (notices?_act acts).trans told⟩
  | execute begins _ ran =>
    obtain ⟨fuel, notices, told⟩ := Engine.exists_notices ran
    exact ⟨notices, fuel, (notices?_begun begins).trans told⟩
  | @enter e instruction _ _ _ _ begins calls =>
    cases instruction with
    | callComponent => exact ⟨_, 0, notices?_begun begins⟩
    | _ => cases calls
  | defer locked => exact ⟨[], 0, notices?_not_begun (by simp [Engine.begun?, locked])⟩
  | halt _ finished | resume _ finished =>
    exact ⟨[], 0, notices?_not_begun (by simp [Engine.begun?, finished])⟩
  | exceed _ _ reached => exact ⟨[], 0, notices?_not_begun (by simp [Engine.begun?, reached])⟩
  | askStep | askSingle | askRun | release | makeUp | leave | rollBack | fail | stop | pause | goOn
  | runOn | runOver | answer => exact ⟨_, 0, rfl⟩

theorem exists_leads {c next : Situation σ} (ticks : Ticks c next) :
    ∃ notices, Leads c notices next := by
  induction ticks with
  | refl => exact ⟨[], .refl c⟩
  | tail _ tick ih =>
    obtain ⟨notices, leads⟩ := ih
    obtain ⟨more, tells⟩ := tick.tells
    exact ⟨notices ++ more, leads.tail tells tick⟩

end DialogueEngine
