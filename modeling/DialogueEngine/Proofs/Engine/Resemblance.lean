import DialogueEngine.Proofs.Engine.Conduct
import DialogueEngine.Proofs.Engine.Machine.Notices
import DialogueEngine.Proofs.Variables.Overlooking

/-!
# Engines that resemble each other

An engine resembles another one if it stands where that one stands and has the same means of
evaluation, and the state of its host differs by a change that the host functions and subscribers
overlook. The configurations and the traces may differ as far as the host functions see no
difference. Operands then evaluate to the same, and instructions come to the same.
-/

namespace DialogueEngine

variable {σ : Type}

/-- A computation takes no notice of a change of the host, and makes no difference between outlooks
that are the same to it. -/
def Computation.Overlooks (change : σ → σ) (same : Outlook → Outlook → Prop) :
    Computation σ → Prop
  | .done _ => True
  | .evaluate _ next => ∀ result, (next result).Overlooks change same
  | .react reaction next => reaction.Overlooks change ∧ next.Overlooks change same
  | .consult next =>
      (∀ host, next (change host) = next host) ∧ ∀ host, (next host).Overlooks change same
  | .observe next =>
      (∀ outlook other, same outlook other → next other = next outlook) ∧
        ∀ outlook, (next outlook).Overlooks change same

/-- Where the host is left as it is, there is no change to take notice of. -/
theorem Computation.Respects.overlooks_id {same : Outlook → Outlook → Prop} {names : Set String}
    {computation : Computation σ} (respects : computation.Respects same names) :
    computation.Overlooks id same := by
  induction computation with
  | done result => trivial
  | evaluate operand next ih => exact fun result => ih result (respects.2 result)
  | react reaction next ih => exact ⟨reaction.overlooks_id, ih respects⟩
  | consult next ih => exact ⟨fun _ => rfl, fun host => ih host (respects host)⟩
  | observe next ih => exact ⟨respects.1, fun outlook => ih outlook (respects.2 outlook)⟩

def HostFunction.Overlooks (change : σ → σ) (same : Outlook → Outlook → Prop)
    (function : HostFunction σ) : Prop :=
  ∀ args, (function args).Overlooks change same

namespace Recital

def modify (change : σ → σ) (recital : Recital σ) : Recital σ :=
  { recital with world := recital.world.modify change }

/-- What comes of one evaluation comes of another one after a change, which nobody notices later. -/
def Follows (change : σ → σ) (recital other : Option (Recital σ)) : Prop :=
  ∀ last, recital = some last → last.world.Overlooks change ∧ other = some (last.modify change)

theorem Follows.map_after {change : σ → σ} {recital other : Option (Recital σ)}
    (follows : Follows change recital other) (earlier : List (Notice σ)) :
    Follows change (recital.map (after earlier)) (other.map (after earlier)) := by
  intro last told
  obtain ⟨first, same, rfl⟩ := Option.map_eq_some_iff.mp told
  obtain ⟨overlooks, rfl⟩ := follows first same
  exact ⟨overlooks, rfl⟩

end Recital

open Recital

namespace Engine

variable {change : σ → σ} {same : Outlook → Outlook → Prop} {e f after : Engine σ}

/-- One engine is as another one after a change of the host, as far as evaluation and instructions
go, and the host code takes no notice of the change. -/
structure Resembles (change : σ → σ) (same : Outlook → Outlook → Prop) (e f : Engine σ) :
    Prop where
  control : f.control = e.control
  statics : f.statics = e.statics
  world : f.world = e.world.modify change
  functions : f.functions = e.functions
  evaluator : f.evaluator = e.evaluator
  components : f.components.names = e.components.names
  subscribers : e.world.Overlooks change
  computations (name : String) (function : HostFunction σ) :
    e.functions.find? name = some function → function.Overlooks change same
  outlooks (w : World σ) :
    same ({ e with world := w } : Engine σ).outlook
      ({ f with world := w.modify change } : Engine σ).outlook

namespace Resembles

variable (resembles : e.Resembles change same f)

include resembles

theorem reactives : f.world.reactives = e.world.reactives := by
  rw [resembles.world]
  rfl

theorem scope : f.scope = e.scope := by
  rw [Engine.scope, Engine.scope, resembles.statics, resembles.world]
  rfl

/-! ## Evaluation -/

mutual

theorem recite : ∀ (fuel : Nat) (operand : Operand) {w : World σ}, w.Overlooks change →
    Follows change (e.recite fuel operand w) (f.recite fuel operand (w.modify change))
  | 0, _, _, _, last, told => by simp [Engine.recite] at told
  | fuel + 1, operand, w, overlooks, last, told => by
    cases operand with
    | literal value =>
      cases told
      exact ⟨overlooks, rfl⟩
    | call name args =>
      rw [Engine.recite] at told ⊢
      rw [resembles.functions]
      cases found : e.functions.find? name with
      | none =>
        simp only [found] at told ⊢
        cases told
        exact ⟨overlooks, rfl⟩
      | some function =>
        simp only [found] at told ⊢
        have calm := resembles.computations name function found args
        exact (reciteComputation fuel calm overlooks).map_after _ last told

theorem reciteComputation : ∀ (fuel : Nat) {computation : Computation σ} {w : World σ},
    computation.Overlooks change same → w.Overlooks change →
      Follows change (e.reciteComputation fuel computation w)
        (f.reciteComputation fuel computation (w.modify change))
  | 0, _, _, _, _, last, told => by simp [Engine.reciteComputation] at told
  | fuel + 1, computation, w, calm, overlooks, last, told => by
    cases computation with
    | done result =>
      cases told
      exact ⟨overlooks, rfl⟩
    | evaluate operand next =>
      rw [Engine.reciteComputation] at told ⊢
      cases evaluated : e.recite fuel operand w with
      | none => simp [evaluated] at told
      | some first =>
        obtain ⟨overlooks, evaluates⟩ := recite fuel operand overlooks first evaluated
        simp only [evaluated] at told
        simp only [evaluates]
        exact (reciteComputation fuel (calm first.result) overlooks).map_after _ last told
    | react reaction next =>
      rw [Engine.reciteComputation] at told ⊢
      cases followed : reaction.follow fuel ⟨w, []⟩ with
      | none => simp [followed] at told
      | some c =>
        obtain ⟨overlooks, follows⟩ := calm.1.follow fuel (c := ⟨w, []⟩) overlooks c followed
        simp only [followed] at told
        rw [show (⟨w.modify change, []⟩ : Chronicle σ) = Chronicle.modify change ⟨w, []⟩ from rfl]
        simp only [follows]
        exact (reciteComputation fuel calm.2 overlooks).map_after _ last told
    | consult next =>
      rw [Engine.reciteComputation] at told ⊢
      simp only [show next (w.modify change).host = next w.host from calm.1 _]
      exact reciteComputation fuel (calm.2 _) overlooks last told
    | observe next =>
      rw [Engine.reciteComputation] at told ⊢
      simp only [calm.1 _ _ (resembles.outlooks w)]
      exact reciteComputation fuel (calm.2 _) overlooks last told

end

theorem reciteOperand (fuel : Nat) (operand : Operand) (embedded : Bool) :
    Follows change (e.reciteOperand fuel operand embedded)
      (f.reciteOperand fuel operand embedded) := by
  intro last told
  rw [Engine.reciteOperand] at told ⊢
  rw [resembles.world]
  cases embedded with
  | true =>
    simp only [if_pos] at told ⊢
    cases told
    have same : f.evaluateEmbedded operand = e.evaluateEmbedded operand := by
      rw [Engine.evaluateEmbedded, Engine.evaluateEmbedded, resembles.evaluator, resembles.scope]
    exact ⟨resembles.subscribers, by rw [same]; rfl⟩
  | false => exact resembles.recite fuel operand resembles.subscribers last told

theorem evaluateOperand {fuel : Nat} {operand : Operand} {embedded : Bool}
    {result : Except Failure Value} {world : World σ}
    (evaluated : e.evaluateOperand fuel operand embedded = some (result, world)) :
    world.Overlooks change ∧
      f.evaluateOperand fuel operand embedded = some (result, world.modify change) := by
  obtain ⟨notices, recited⟩ := e.exists_recital evaluated
  obtain ⟨overlooks, recites⟩ := resembles.reciteOperand fuel operand embedded _ recited
  rw [← map_outcome_reciteOperand, recites]
  exact ⟨overlooks, rfl⟩

/-! ## Instructions -/

theorem contains (name : String) : f.components.contains name = e.components.contains name := by
  rw [Bool.eq_iff_iff, NameTable.contains_iff_mem_names, NameTable.contains_iff_mem_names,
    resembles.components]

/-- An instruction is noticed in the same way. -/
theorem notices {fuel : Nat} {instruction : Instruction} {notices : List (Notice σ)}
    (told : e.notices? fuel instruction = some notices) :
    f.notices? fuel instruction = some notices := by
  cases instruction with
  | setStatic _ operand embedded | condGoto _ operand embedded =>
    rw [Engine.notices?] at told ⊢
    obtain ⟨recital, recited, rfl⟩ := Option.map_eq_some_iff.mp told
    rw [(resembles.reciteOperand fuel operand embedded recital recited).2]
    rfl
  | setReactive name operand embedded =>
    rw [Engine.notices?] at told ⊢
    rw [resembles.reactives]
    split at told
    · next declared =>
      rw [if_pos declared]
      cases recited : e.reciteOperand fuel operand embedded with
      | none => simp [recited] at told
      | some recital =>
        obtain ⟨overlooks, recites⟩ :=
          resembles.reciteOperand fuel operand embedded recital recited
        obtain ⟨_ | value, world, spoken⟩ := recital
        · simp only [recited] at told
          rw [recites]
          exact told
        · simp only [recited] at told
          obtain ⟨c, assigned, rfl⟩ := Option.map_eq_some_iff.mp told
          obtain ⟨-, assigns⟩ :=
            Chronicle.follows_assign fuel (c := ⟨world, []⟩) overlooks name value c assigned
          rw [recites]
          exact Option.map_eq_some_iff.mpr ⟨_, assigns, rfl⟩
    · next undeclared =>
      rw [if_neg undeclared]
      exact told
  | callComponent name args =>
    rw [Engine.notices?] at told ⊢
    rw [resembles.contains]
    exact told
  | goto | call | ret => exact told

/-- An instruction that calls no component comes to the same. -/
theorem execute {fuel : Nat} {instruction : Instruction} {result : Except Failure Pacing}
    (simple : e.calledAction? instruction = none)
    (ran : Engine.execute fuel instruction e = some (result, after)) :
    ∃ control statics world, world.Overlooks change ∧ after = { e with control, statics, world } ∧
      Engine.execute fuel instruction f =
        some (result, { f with control, statics, world := world.modify change }) := by
  have here := resembles.control
  have stored := resembles.statics
  have there := resembles.world
  have kept := resembles.subscribers
  cases fuel with
  | zero => simp [Engine.execute] at ran
  | succ fuel =>
    cases instruction with
    | setStatic name operand embedded =>
      rw [Engine.execute] at ran ⊢
      cases evaluated : e.evaluateOperand fuel operand embedded with
      | none => simp [evaluated] at ran
      | some pair =>
        obtain ⟨outcome, world⟩ := pair
        obtain ⟨overlooks, evaluates⟩ := resembles.evaluateOperand evaluated
        simp only [evaluated] at ran
        simp only [evaluates]
        cases outcome with
        | error failure =>
          cases ran
          exact ⟨e.control, e.statics, world, overlooks, rfl, by simp only [← here, ← stored]⟩
        | ok value =>
          cases ran
          exact ⟨_, _, world, overlooks, rfl,
            by simp only [Engine.steer, Engine.setStatic, here, stored]⟩
    | setReactive name operand embedded =>
      rw [Engine.execute] at ran ⊢
      rw [resembles.reactives]
      split at ran
      · next declared =>
        rw [if_pos declared]
        cases evaluated : e.evaluateOperand fuel operand embedded with
        | none => simp [evaluated] at ran
        | some pair =>
          obtain ⟨outcome, world⟩ := pair
          obtain ⟨overlooks, evaluates⟩ := resembles.evaluateOperand evaluated
          simp only [evaluated] at ran
          simp only [evaluates]
          cases outcome with
          | error failure =>
            cases ran
            exact ⟨e.control, e.statics, world, overlooks, rfl, by simp only [← here, ← stored]⟩
          | ok value =>
            cases assigned : world.assign fuel name value with
            | none => simp [assigned] at ran
            | some last =>
              obtain ⟨overlooks, assigns⟩ := overlooks.assign assigned
              simp only [assigned] at ran
              cases ran
              exact ⟨_, e.statics, last, overlooks, rfl,
                by simp only [assigns, Engine.steer, here, ← stored]⟩
      · next undeclared =>
        cases ran
        rw [if_neg undeclared]
        exact ⟨e.control, e.statics, e.world, kept, rfl,
          by simp only [← here, ← stored, ← there]⟩
    | condGoto label operand embedded =>
      rw [Engine.execute] at ran ⊢
      cases evaluated : e.evaluateOperand fuel operand embedded with
      | none => simp [evaluated] at ran
      | some pair =>
        obtain ⟨outcome, world⟩ := pair
        obtain ⟨overlooks, evaluates⟩ := resembles.evaluateOperand evaluated
        simp only [evaluated] at ran
        simp only [evaluates]
        cases leads : outcome.bind jumpTarget with
        | error failure =>
          simp only [leads] at ran
          cases ran
          exact ⟨e.control, e.statics, world, overlooks, rfl, by simp only [← here, ← stored]⟩
        | ok position =>
          simp only [leads] at ran
          cases ran
          exact ⟨_, e.statics, world, overlooks, rfl,
            by simp only [Engine.steer, here, ← stored]⟩
    | goto target | call target =>
      cases ran
      exact ⟨_, e.statics, e.world, kept, rfl,
        by simp only [Engine.execute, Engine.steer, here, ← stored, ← there]⟩
    | ret =>
      rw [Engine.execute] at ran ⊢
      rw [here]
      cases back : e.control.ret? with
      | none =>
        simp only [back] at ran
        cases ran
        exact ⟨e.control, e.statics, e.world, kept, rfl,
          by simp only [← here, ← stored, ← there]⟩
      | some control =>
        simp only [back] at ran
        cases ran
        exact ⟨control, e.statics, e.world, kept, rfl, by simp only [← stored, ← there]⟩
    | callComponent name args =>
      have unknown : e.components.find? name = none := Option.map_eq_none_iff.mp simple
      have unlisted : f.components.find? name = none := by
        have same := resembles.contains name
        rwa [NameTable.contains, NameTable.contains, unknown, Option.isSome_none,
          Option.isSome_eq_false_iff, Option.isNone_iff_eq_none] at same
      rw [Engine.execute] at ran ⊢
      simp only [unknown] at ran
      cases ran
      exact ⟨e.control, e.statics, e.world, kept, rfl,
        by simp only [unlisted, ← here, ← stored, ← there]⟩

/-! ## What components do -/

theorem actNotices_evaluate {fuel : Nat} {operand : Operand} {embedded : Bool}
    {next other : Except Failure Value → Action σ} {notices : List (Notice σ)}
    (told : e.actNotices? fuel (.evaluate operand embedded next) = some notices) :
    f.actNotices? fuel (.evaluate operand embedded other) = some notices := by
  rw [actNotices?] at told ⊢
  obtain ⟨recital, recited, rfl⟩ := Option.map_eq_some_iff.mp told
  rw [(resembles.reciteOperand fuel operand embedded recital recited).2]
  rfl

theorem actNotices_react {fuel : Nat} {reaction : Reaction σ} {next other : Action σ}
    {notices : List (Notice σ)} (calm : reaction.Overlooks change)
    (told : e.actNotices? fuel (.react reaction next) = some notices) :
    f.actNotices? fuel (.react reaction other) = some notices := by
  rw [actNotices?] at told ⊢
  obtain ⟨c, followed, rfl⟩ := Option.map_eq_some_iff.mp told
  obtain ⟨-, follows⟩ := calm.follow fuel (c := ⟨e.world, []⟩) resembles.subscribers c followed
  rw [resembles.world]
  exact Option.map_eq_some_iff.mpr ⟨_, follows, rfl⟩

end Resembles

end Engine

end DialogueEngine
