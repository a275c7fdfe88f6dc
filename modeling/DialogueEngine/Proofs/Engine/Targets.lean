import DialogueEngine.Proofs.Engine.Machine.Notices
import DialogueEngine.Proofs.Program.Targets
import Mathlib.Data.Option.Basic

/-!
# Engines that differ in targets alone

Engines whose programs differ in the targets of conditional jumps alone, with host code that does
the same whatever those targets are. Evaluation and instructions come to the same on them, and so
does what the host or a component does to them.
-/

namespace DialogueEngine

variable {σ : Type}

/-! ## Host code -/

/-- Two outlooks differ in targets alone. -/
structure Outlook.SameButTargets (outlook other : Outlook) : Prop where
  view : outlook.toView.withoutTargets = other.toView.withoutTargets
  config : outlook.config = other.config
  trace : outlook.trace.withoutTargets = other.trace.withoutTargets
  embedded : outlook.embedded = other.embedded

theorem Outlook.SameButTargets.symm {outlook other : Outlook}
    (same : outlook.SameButTargets other) : other.SameButTargets outlook :=
  ⟨same.view.symm, same.config.symm, same.trace.symm, same.embedded.symm⟩

/-- Two computations do the same, also where they see engines that differ in targets. -/
inductive Computation.SameButTargets : Computation σ → Computation σ → Prop where
  | done (result : Except Failure Value) : SameButTargets (.done result) (.done result)
  | evaluate {next other : Except Failure Value → Computation σ} (operand : Operand)
      (rest : ∀ result, SameButTargets (next result) (other result)) :
      SameButTargets (.evaluate operand next) (.evaluate operand other)
  | react {next other : Computation σ} (reaction : Reaction σ) (rest : SameButTargets next other) :
      SameButTargets (.react reaction next) (.react reaction other)
  | consult {next other : σ → Computation σ}
      (rest : ∀ host, SameButTargets (next host) (other host)) :
      SameButTargets (.consult next) (.consult other)
  | observe {next other : Outlook → Computation σ}
      (rest : ∀ outlook counterpart, outlook.SameButTargets counterpart →
        SameButTargets (next outlook) (other counterpart)) :
      SameButTargets (.observe next) (.observe other)

theorem Computation.SameButTargets.symm {computation other : Computation σ}
    (same : computation.SameButTargets other) : other.SameButTargets computation := by
  induction same with
  | done result => exact .done result
  | evaluate operand _ ih => exact .evaluate operand ih
  | react reaction _ ih => exact .react reaction ih
  | consult _ ih => exact .consult ih
  | observe _ ih =>
    exact .observe fun outlook counterpart shown => ih counterpart outlook shown.symm

def HostFunction.SameButTargets (function counterpart : HostFunction σ) : Prop :=
  ∀ args, (function args).SameButTargets (counterpart args)

/-- An operation that brings neither a program nor host code. -/
def Operation.Bare : Operation σ → Prop
  | .load _ | .loadSub _ | .register .. | .registerFunction .. => False
  | .lock | .reset | .clearTrace | .setStatic .. | .declare .. | .installEvaluator _ => True

/-- Two actions do the same, with programs that differ in targets alone. -/
inductive Action.SameButTargets : Action σ → Action σ → Prop where
  | done (result : Except Failure Pacing) : SameButTargets (.done result) (.done result)
  | load {program counterpart : Program} {next other : Action σ}
      (programs : program.withoutTargets = counterpart.withoutTargets)
      (rest : SameButTargets next other) :
      SameButTargets (.perform (.load program) next) (.perform (.load counterpart) other)
  | loadSub {program counterpart : Program} {next other : Action σ}
      (programs : program.withoutTargets = counterpart.withoutTargets)
      (rest : SameButTargets next other) :
      SameButTargets (.perform (.loadSub program) next) (.perform (.loadSub counterpart) other)
  | register {component counterpart : Component σ} {next other : Action σ} (name : String)
      (calls : ∀ args, SameButTargets (component args) (counterpart args))
      (rest : SameButTargets next other) :
      SameButTargets (.perform (.register name component) next)
        (.perform (.register name counterpart) other)
  | registerFunction {function counterpart : HostFunction σ} {next other : Action σ}
      (name : String) (calls : function.SameButTargets counterpart)
      (rest : SameButTargets next other) :
      SameButTargets (.perform (.registerFunction name function) next)
        (.perform (.registerFunction name counterpart) other)
  | perform {operation : Operation σ} {next other : Action σ} (bare : operation.Bare)
      (rest : SameButTargets next other) :
      SameButTargets (.perform operation next) (.perform operation other)
  | react {next other : Action σ} (reaction : Reaction σ) (rest : SameButTargets next other) :
      SameButTargets (.react reaction next) (.react reaction other)
  | consult {next other : σ → Action σ} (rest : ∀ host, SameButTargets (next host) (other host)) :
      SameButTargets (.consult next) (.consult other)
  | observe {next other : View → Action σ}
      (rest : ∀ view counterpart, view.withoutTargets = counterpart.withoutTargets →
        SameButTargets (next view) (other counterpart)) :
      SameButTargets (.observe next) (.observe other)
  | settings {next other : Config → Action σ}
      (rest : ∀ config, SameButTargets (next config) (other config)) :
      SameButTargets (.settings next) (.settings other)
  | records {next other : Trace → Action σ}
      (rest : ∀ trace counterpart, trace.withoutTargets = counterpart.withoutTargets →
        SameButTargets (next trace) (other counterpart)) :
      SameButTargets (.records next) (.records other)
  | evaluate {next other : Except Failure Value → Action σ} (operand : Operand) (embedded : Bool)
      (rest : ∀ result, SameButTargets (next result) (other result)) :
      SameButTargets (.evaluate operand embedded next) (.evaluate operand embedded other)
  | ask {next other : Except Failure (Option StepOutcome) → Action σ} (request : Request)
      (rest : ∀ result, SameButTargets (next result) (other result)) :
      SameButTargets (.ask request next) (.ask request other)

theorem Action.SameButTargets.symm {action other : Action σ}
    (same : action.SameButTargets other) : other.SameButTargets action := by
  induction same with
  | done result => exact .done result
  | load programs _ ih => exact .load programs.symm ih
  | loadSub programs _ ih => exact .loadSub programs.symm ih
  | register name _ _ calls ih => exact .register name calls ih
  | registerFunction name calls _ ih =>
    exact .registerFunction name (fun args => (calls args).symm) ih
  | perform bare _ ih => exact .perform bare ih
  | react reaction _ ih => exact .react reaction ih
  | consult _ ih => exact .consult ih
  | observe _ ih => exact .observe fun view counterpart shown => ih counterpart view shown.symm
  | settings _ ih => exact .settings ih
  | records _ ih => exact .records fun trace counterpart shown => ih counterpart trace shown.symm
  | evaluate operand embedded _ ih => exact .evaluate operand embedded ih
  | ask request _ ih => exact .ask request ih

def Component.SameButTargets (component counterpart : Component σ) : Prop :=
  ∀ args, (component args).SameButTargets (counterpart args)

/-! ## Engines -/

namespace Engine

/-- Two engines differ in the targets of their programs and of their traces alone, and their host
code does the same. -/
structure SameButTargets (e f : Engine σ) : Prop where
  control : e.control.withoutTargets = f.control.withoutTargets
  trace : e.trace.withoutTargets = f.trace.withoutTargets
  config : e.config = f.config
  statics : e.statics = f.statics
  world : e.world = f.world
  evaluator : e.evaluator = f.evaluator
  functionNames : e.functions.names = f.functions.names
  functions (name : String) :
    Option.Rel HostFunction.SameButTargets (e.functions.find? name) (f.functions.find? name)
  componentNames : e.components.names = f.components.names
  components (name : String) :
    Option.Rel Component.SameButTargets (e.components.find? name) (f.components.find? name)

variable {e f after : Engine σ}

theorem rel_flip {α β : Type*} {r : α → β → Prop} {s : β → α → Prop}
    (flips : ∀ a b, r a b → s b a) {a : Option α} {b : Option β} (related : Option.Rel r a b) :
    Option.Rel s b a := by
  cases related with
  | none => exact .none
  | some holds => exact .some (flips _ _ holds)

theorem rel_of_map_eq {α β : Type*} {g : α → β} {a b : Option α} (same : a.map g = b.map g) :
    Option.Rel (fun x y => g x = g y) a b := by
  match a, b with
  | none, none => exact .none
  | some x, some y => exact .some (Option.some.inj same)

theorem eq_none_of_rel {α β : Type*} {r : α → β → Prop} {b : Option β}
    (related : Option.Rel r none b) : b = none := by
  cases related
  rfl

theorem exists_of_rel {α β : Type*} {r : α → β → Prop} {a : α} {b : Option β}
    (related : Option.Rel r (some a) b) : ∃ y, b = some y ∧ r a y := by
  cases related with
  | some holds => exact ⟨_, rfl, holds⟩

namespace SameButTargets

variable (same : e.SameButTargets f)

include same

theorem symm : f.SameButTargets e where
  control := same.control.symm
  trace := same.trace.symm
  config := same.config.symm
  statics := same.statics.symm
  world := same.world.symm
  evaluator := same.evaluator.symm
  functionNames := same.functionNames.symm
  functions name := rel_flip (fun _ _ calls args => (calls args).symm) (same.functions name)
  componentNames := same.componentNames.symm
  components name := rel_flip (fun _ _ calls args => (calls args).symm) (same.components name)

theorem scope : e.scope = f.scope := by rw [Engine.scope, Engine.scope, same.statics, same.world]

theorem view : e.view.withoutTargets = f.view.withoutTargets := by
  simp only [View.withoutTargets, Engine.view, same.control, same.scope, same.world,
    same.componentNames, same.functionNames, same.evaluator]

theorem evaluateEmbedded (operand : Operand) :
    e.evaluateEmbedded operand = f.evaluateEmbedded operand := by
  rw [Engine.evaluateEmbedded, Engine.evaluateEmbedded, same.evaluator, same.scope]

theorem outlook : e.outlook.SameButTargets f.outlook where
  view := same.view
  config := same.config
  trace := same.trace
  embedded := funext same.evaluateEmbedded

/-! ## What keeps engines the same -/

theorem steer {move other : Control → Control}
    (moves : (move e.control).withoutTargets = (other f.control).withoutTargets) :
    (e.steer move).SameButTargets (f.steer other) :=
  { same with control := moves }

theorem setWorld (world : World σ) : SameButTargets { e with world } { f with world } :=
  { same with world := rfl }

theorem setStatic (name : String) (value : Value) :
    (e.setStatic name value).SameButTargets (f.setStatic name value) :=
  { same with statics := congrArg (NameTable.insert · name value) same.statics }

theorem position : e.control.position = f.control.position := by
  have positions := congrArg Control.position same.control
  exact positions

theorem depth : e.control.depth = f.control.depth := by
  have depths := congrArg Control.depth same.control
  rwa [Control.depth_withoutTargets, Control.depth_withoutTargets] at depths

theorem instruction? :
    Option.Rel (fun instruction counterpart =>
      instruction.withoutTarget = counterpart.withoutTarget)
      e.control.instruction? f.control.instruction? := by
  have instructions := congrArg Control.instruction? same.control
  rw [Control.instruction?_withoutTargets, Control.instruction?_withoutTargets] at instructions
  exact rel_of_map_eq instructions

theorem resume? :
    Option.Rel (fun c d => c.withoutTargets = d.withoutTargets) e.control.resume?
      f.control.resume? := by
  have resumed := congrArg Control.resume? same.control
  rw [Control.resume?_withoutTargets, Control.resume?_withoutTargets] at resumed
  exact rel_of_map_eq resumed

theorem ret? :
    Option.Rel (fun c d => c.withoutTargets = d.withoutTargets) e.control.ret?
      f.control.ret? := by
  have returned := congrArg Control.ret? same.control
  rw [Control.ret?_withoutTargets, Control.ret?_withoutTargets] at returned
  exact rel_of_map_eq returned

theorem record {instruction counterpart : Instruction}
    (instructions : instruction.withoutTarget = counterpart.withoutTarget) :
    (e.record instruction).SameButTargets (f.record counterpart) := by
  have pushed : (e.trace.push e.control.position e.control.depth instruction).withoutTargets =
      (f.trace.push f.control.position f.control.depth counterpart).withoutTargets := by
    rw [Trace.withoutTargets_push, Trace.withoutTargets_push, same.trace, same.position,
      same.depth, instructions]
  rw [Engine.record, Engine.record]
  by_cases enabled : e.config.traceEnabled
  · rw [if_pos enabled, if_pos (same.config ▸ enabled)]
    exact { same with trace := pushed }
  · rw [if_neg enabled, if_neg (same.config ▸ enabled)]
    exact same

theorem load {program counterpart : Program}
    (programs : program.withoutTargets = counterpart.withoutTargets) :
    (e.perform (.load program)).SameButTargets (f.perform (.load counterpart)) := by
  have loaded : (e.control.load program).withoutTargets =
      (f.control.load counterpart).withoutTargets := by
    rw [Control.withoutTargets_load, Control.withoutTargets_load, same.control, programs]
  exact { same with control := loaded }

theorem loadSub {program counterpart : Program}
    (programs : program.withoutTargets = counterpart.withoutTargets) :
    (e.perform (.loadSub program)).SameButTargets (f.perform (.loadSub counterpart)) := by
  have loaded : (e.control.loadSub program).withoutTargets =
      (f.control.loadSub counterpart).withoutTargets := by
    rw [Control.withoutTargets_loadSub, Control.withoutTargets_loadSub, same.control, programs]
  exact { same with control := loaded }

theorem perform {operation : Operation σ} (bare : operation.Bare) :
    (e.perform operation).SameButTargets (f.perform operation) := by
  cases operation with
  | load | loadSub | register | registerFunction => exact bare.elim
  | lock => exact same.steer (congrArg Control.lock same.control)
  | reset =>
    refine same.steer ?_
    rw [Control.withoutTargets_reset, Control.withoutTargets_reset, same.control]
  | clearTrace =>
    have cleared : e.trace.clear.withoutTargets = f.trace.clear.withoutTargets := by
      rw [Trace.withoutTargets_clear, Trace.withoutTargets_clear, same.trace]
    exact { same with trace := cleared }
  | setStatic name value => exact same.setStatic name value
  | declare name initial =>
    exact { same with world := congrArg (World.declare · name initial) same.world }
  | installEvaluator evaluator => exact { same with evaluator := rfl }

theorem register {component counterpart : Component σ} (name : String)
    (calls : component.SameButTargets counterpart) :
    (e.register name component).SameButTargets (f.register name counterpart) :=
  { same with
    componentNames := NameTable.names_insert_congr same.componentNames name counterpart component
    components := fun other => by
      rw [Engine.register, Engine.register, NameTable.find?_insert, NameTable.find?_insert]
      split
      · exact .some calls
      · exact same.components other }

theorem registerFunction {function counterpart : HostFunction σ} (name : String)
    (calls : function.SameButTargets counterpart) :
    (e.registerFunction name function).SameButTargets (f.registerFunction name counterpart) :=
  { same with
    functionNames := NameTable.names_insert_congr same.functionNames name counterpart function
    functions := fun other => by
      rw [Engine.registerFunction, Engine.registerFunction, NameTable.find?_insert,
        NameTable.find?_insert]
      split
      · exact .some calls
      · exact same.functions other }

/-! ## Evaluation -/

mutual

theorem recite : ∀ (fuel : Nat) (operand : Operand) (w : World σ),
    e.recite fuel operand w = f.recite fuel operand w
  | 0, _, _ => by rw [Engine.recite, Engine.recite]
  | fuel + 1, operand, w => by
    cases operand with
    | literal value => rw [Engine.recite, Engine.recite]
    | call name args =>
      have functions := same.functions name
      rw [Engine.recite, Engine.recite]
      generalize e.functions.find? name = function at functions ⊢
      generalize f.functions.find? name = counterpart at functions ⊢
      cases functions with
      | none => rfl
      | some calls =>
        exact congrArg (Option.map (Recital.after [.function name args]))
          (reciteComputation fuel (calls args) w)

theorem reciteComputation : ∀ (fuel : Nat) {computation other : Computation σ},
    computation.SameButTargets other → ∀ w : World σ,
      e.reciteComputation fuel computation w = f.reciteComputation fuel other w
  | 0, _, _, _, _ => by rw [Engine.reciteComputation, Engine.reciteComputation]
  | fuel + 1, _, _, computations, w => by
    cases computations with
    | done result => rw [Engine.reciteComputation, Engine.reciteComputation]
    | evaluate operand rest =>
      rw [Engine.reciteComputation, Engine.reciteComputation, recite fuel operand w]
      cases f.recite fuel operand w with
      | none => rfl
      | some first =>
        exact congrArg (Option.map (Recital.after first.notices))
          (reciteComputation fuel (rest first.result) first.world)
    | react reaction rest =>
      rw [Engine.reciteComputation, Engine.reciteComputation]
      cases reaction.follow fuel ⟨w, []⟩ with
      | none => rfl
      | some c =>
        exact congrArg (Option.map (Recital.after c.notices)) (reciteComputation fuel rest c.world)
    | consult rest =>
      rw [Engine.reciteComputation, Engine.reciteComputation]
      exact reciteComputation fuel (rest w.host) w
    | observe rest =>
      rw [Engine.reciteComputation, Engine.reciteComputation]
      exact reciteComputation fuel (rest _ _ (same.setWorld w).outlook) w

end

theorem reciteOperand (fuel : Nat) (operand : Operand) (embedded : Bool) :
    e.reciteOperand fuel operand embedded = f.reciteOperand fuel operand embedded := by
  rw [Engine.reciteOperand, Engine.reciteOperand, same.evaluateEmbedded, same.world, same.recite]

theorem evaluateOperand (fuel : Nat) (operand : Operand) (embedded : Bool) :
    e.evaluateOperand fuel operand embedded = f.evaluateOperand fuel operand embedded := by
  rw [← map_outcome_reciteOperand, ← map_outcome_reciteOperand, same.reciteOperand]

/-! ## Instructions -/

theorem moveOn : (e.steer Control.moveOn).SameButTargets (f.steer Control.moveOn) := by
  have moved := congrArg Control.moveOn same.control
  exact same.steer moved

theorem calledAction?_self (instruction : Instruction) :
    Option.Rel Action.SameButTargets (e.calledAction? instruction)
      (f.calledAction? instruction) := by
  cases instruction with
  | callComponent name args =>
    have components := same.components name
    rw [Engine.calledAction?, Engine.calledAction?]
    generalize e.components.find? name = component at components ⊢
    generalize f.components.find? name = counterpart at components ⊢
    cases components with
    | none => exact .none
    | some calls => exact .some (calls args)
  | _ => exact .none

/-- An instruction that calls no component comes to the same. -/
theorem execute_self {fuel : Nat} {instruction : Instruction} {result : Except Failure Pacing}
    (simple : e.calledAction? instruction = none)
    (ran : Engine.execute fuel instruction e = some (result, after)) :
    ∃ last, Engine.execute fuel instruction f = some (result, last) ∧
      after.SameButTargets last := by
  cases fuel with
  | zero => simp [Engine.execute] at ran
  | succ fuel =>
    cases instruction with
    | setStatic name operand embedded =>
      rw [Engine.execute] at ran ⊢
      rw [← same.evaluateOperand]
      cases evaluated : e.evaluateOperand fuel operand embedded with
      | none => simp [evaluated] at ran
      | some pair =>
        obtain ⟨outcome, world⟩ := pair
        simp only [evaluated] at ran
        cases outcome with
        | error failure =>
          cases ran
          exact ⟨_, rfl, same.setWorld world⟩
        | ok value =>
          cases ran
          exact ⟨_, rfl, ((same.setWorld world).setStatic name value).moveOn⟩
    | setReactive name operand embedded =>
      rw [Engine.execute] at ran ⊢
      rw [← same.evaluateOperand, ← same.world]
      split at ran
      · next declared =>
        rw [if_pos declared]
        cases evaluated : e.evaluateOperand fuel operand embedded with
        | none => simp [evaluated] at ran
        | some pair =>
          obtain ⟨outcome, world⟩ := pair
          simp only [evaluated] at ran ⊢
          cases outcome with
          | error failure =>
            cases ran
            exact ⟨_, rfl, same.setWorld world⟩
          | ok value =>
            cases assigned : world.assign fuel name value with
            | none => simp [assigned] at ran
            | some last =>
              simp only [assigned] at ran ⊢
              cases ran
              exact ⟨_, rfl, (same.setWorld last).moveOn⟩
      · next undeclared =>
        cases ran
        rw [if_neg undeclared]
        exact ⟨_, rfl, same⟩
    | condGoto target operand embedded =>
      rw [Engine.execute] at ran ⊢
      rw [← same.evaluateOperand]
      cases evaluated : e.evaluateOperand fuel operand embedded with
      | none => simp [evaluated] at ran
      | some pair =>
        obtain ⟨outcome, world⟩ := pair
        simp only [evaluated] at ran ⊢
        cases leads : outcome.bind jumpTarget with
        | error failure =>
          simp only [leads] at ran
          cases ran
          exact ⟨_, rfl, same.setWorld world⟩
        | ok position =>
          simp only [leads] at ran
          cases ran
          have jumped := congrArg (Control.jump · position) same.control
          exact ⟨_, rfl, (same.setWorld world).steer jumped⟩
    | goto target =>
      cases ran
      have jumped := congrArg (Control.jump · target.toNat) same.control
      exact ⟨_, rfl, same.steer jumped⟩
    | call target =>
      cases ran
      have called := congrArg (Control.call · target.toNat) same.control
      exact ⟨_, rfl, same.steer called⟩
    | ret =>
      rw [Engine.execute] at ran ⊢
      have returns := same.ret?
      generalize e.control.ret? = back at returns ran
      generalize f.control.ret? = other at returns ⊢
      cases returns with
      | none =>
        cases ran
        exact ⟨_, rfl, same⟩
      | some returns =>
        cases ran
        exact ⟨_, rfl, { same with control := returns }⟩
    | callComponent name args =>
      have components := same.components name
      have unknown : e.components.find? name = none := Option.map_eq_none_iff.mp simple
      rw [Engine.execute] at ran ⊢
      rw [unknown] at components ran
      generalize f.components.find? name = counterpart at components ⊢
      cases components
      cases ran
      exact ⟨_, rfl, same⟩

theorem contains (name : String) : e.components.contains name = f.components.contains name := by
  rw [Bool.eq_iff_iff, NameTable.contains_iff_mem_names, NameTable.contains_iff_mem_names,
    same.componentNames]

/-- An instruction is noticed in the same way. -/
theorem notices?_self (fuel : Nat) (instruction : Instruction) :
    e.notices? fuel instruction = f.notices? fuel instruction := by
  cases instruction with
  | setStatic _ operand embedded | condGoto _ operand embedded =>
    rw [Engine.notices?, Engine.notices?, same.reciteOperand]
  | setReactive name operand embedded =>
    rw [Engine.notices?, Engine.notices?, same.reciteOperand, same.world]
  | callComponent name args => rw [Engine.notices?, Engine.notices?, same.contains]
  | goto | call | ret => rfl

end SameButTargets

/-! ## Instructions that differ in their targets -/

theorem calledAction?_withoutTarget (e : Engine σ) (instruction : Instruction) :
    e.calledAction? instruction.withoutTarget = e.calledAction? instruction := by
  cases instruction <;> rfl

/-- An instruction is executed without a look at the target. -/
theorem execute_withoutTarget (fuel : Nat) (instruction : Instruction) (e : Engine σ) :
    execute fuel instruction.withoutTarget e = execute fuel instruction e := by
  cases instruction with
  | condGoto target condition embedded =>
    cases fuel with
    | zero => rw [execute, execute]
    | succ fuel => rw [Instruction.withoutTarget, execute, execute]
  | _ => rfl

theorem notices?_withoutTarget (e : Engine σ) (fuel : Nat) (instruction : Instruction) :
    e.notices? fuel instruction.withoutTarget = e.notices? fuel instruction := by
  cases instruction <;> rfl

namespace SameButTargets

variable {instruction counterpart : Instruction}

theorem calledAction? (same : e.SameButTargets f)
    (instructions : instruction.withoutTarget = counterpart.withoutTarget) :
    Option.Rel Action.SameButTargets (e.calledAction? instruction)
      (f.calledAction? counterpart) := by
  rw [← calledAction?_withoutTarget e, ← calledAction?_withoutTarget f, instructions]
  exact same.calledAction?_self _

theorem execute (same : e.SameButTargets f)
    (instructions : instruction.withoutTarget = counterpart.withoutTarget) {fuel : Nat}
    {result : Except Failure Pacing} (simple : e.calledAction? instruction = none)
    (ran : Engine.execute fuel instruction e = some (result, after)) :
    ∃ last, Engine.execute fuel counterpart f = some (result, last) ∧
      after.SameButTargets last := by
  rw [← calledAction?_withoutTarget, instructions] at simple
  rw [← execute_withoutTarget, instructions] at ran
  rw [← execute_withoutTarget]
  exact same.execute_self simple ran

theorem notices? (same : e.SameButTargets f)
    (instructions : instruction.withoutTarget = counterpart.withoutTarget) (fuel : Nat) :
    e.notices? fuel instruction = f.notices? fuel counterpart := by
  rw [← notices?_withoutTarget e, ← notices?_withoutTarget f, instructions]
  exact same.notices?_self fuel _

/-! ## What the host and components do -/

variable {action other next : Action σ}

theorem actNotices? (same : e.SameButTargets f) (actions : action.SameButTargets other)
    (fuel : Nat) : e.actNotices? fuel action = f.actNotices? fuel other := by
  have pending : e.control.pending = f.control.pending := by
    have pending := congrArg Control.pending same.control
    exact pending
  cases actions with
  | react reaction => rw [Engine.actNotices?, Engine.actNotices?, same.world]
  | evaluate operand embedded =>
    rw [Engine.actNotices?, Engine.actNotices?, same.reciteOperand]
  | ask request =>
    cases request with
    | unlock => rw [Engine.actNotices?, Engine.actNotices?, pending]
    | _ => rfl
  | _ => rfl

/-- What is done to the one engine can be done to the other. -/
theorem acts (same : e.SameButTargets f) (actions : action.SameButTargets other)
    (acts : e.Acts action next after) :
    ∃ last onward, f.Acts other onward last ∧ after.SameButTargets last ∧
      next.SameButTargets onward := by
  cases actions with
  | done | ask => cases acts
  | load programs rest =>
    cases acts
    exact ⟨_, _, .perform _ _, same.load programs, rest⟩
  | loadSub programs rest =>
    cases acts
    exact ⟨_, _, .perform _ _, same.loadSub programs, rest⟩
  | register name calls rest =>
    cases acts
    exact ⟨_, _, .perform _ _, same.register name calls, rest⟩
  | registerFunction name calls rest =>
    cases acts
    exact ⟨_, _, .perform _ _, same.registerFunction name calls, rest⟩
  | perform bare rest =>
    cases acts
    exact ⟨_, _, .perform _ _, same.perform bare, rest⟩
  | react reaction rest =>
    cases acts with
    | react ran =>
      rw [same.world] at ran
      exact ⟨_, _, .react ran, same.setWorld _, rest⟩
  | consult rest =>
    cases acts
    rw [same.world]
    exact ⟨f, _, .consult _, same, rest _⟩
  | observe rest =>
    cases acts
    exact ⟨f, _, .observe _, same, rest _ _ same.view⟩
  | settings rest =>
    cases acts
    rw [same.config]
    exact ⟨f, _, .settings _, same, rest _⟩
  | records rest =>
    cases acts
    exact ⟨f, _, .records _, same, rest _ _ same.trace⟩
  | evaluate operand embedded rest =>
    cases acts with
    | evaluate evaluated =>
      rw [same.evaluateOperand] at evaluated
      exact ⟨_, _, .evaluate evaluated, same.setWorld _, rest _⟩

end SameButTargets

end Engine

end DialogueEngine
