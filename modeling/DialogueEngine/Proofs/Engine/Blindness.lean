import DialogueEngine.Proofs.Engine.Conduct
import DialogueEngine.Proofs.Engine.Transition

/-!
# Blind host code

Components and host functions that neither see nor change where the programs of an engine stand, nor
its lock. A sub-program that uses only such host code does the same on top of other programs and
their calls as it does alone; the two engines differ in what lies beneath and in the depths that the
trace records.
-/

namespace DialogueEngine

/-- The trace without the numbers of programs that were suspended. -/
def Trace.leveled (trace : Trace) : Trace :=
  { trace with
    records := trace.records.map fun record => { record with depth := 0 }
    bounded := by simpa using trace.bounded }

theorem Trace.leveled_push (trace : Trace) (position depth : Nat) (instruction : Instruction) :
    (trace.push position depth instruction).leveled =
      trace.leveled.push position 0 instruction := by
  simp only [leveled, push, map_evict, List.map_append, List.map_singleton]

theorem Trace.leveled_clear (trace : Trace) : trace.clear.leveled = trace.leveled.clear := rfl

/-- Two views differ in the control state only. -/
def View.SameButControl (view other : View) : Prop := ∃ control, other = { view with control }

/-- Two outlooks differ in the control state only, and in the depths that the trace records. -/
def Outlook.SameButControl (outlook other : Outlook) : Prop :=
  ∃ control trace, trace.leveled = outlook.trace.leveled ∧
    other = { outlook with control, trace }

/-- What a program makes use of, be it through its components and functions. -/
structure Vocabulary where
  calls : Set (String × ComponentArgs)
  functions : Set String

def Instruction.Within (v : Vocabulary) : Instruction → Prop
  | .setStatic _ operand embedded | .setReactive _ operand embedded
  | .condGoto _ operand embedded => embedded = false → operand.Within v.functions
  | .callComponent name args => (name, args) ∈ v.calls
  | .goto _ | .call _ | .ret => True

def Program.Within (v : Vocabulary) (program : Program) : Prop :=
  ∀ instruction ∈ program, instruction.Within v

/-- The control state of programs that stand alone, on top of that of others. The lock is that of
the latter. -/
def Control.on (c base : Control) : Control :=
  { base with
    program := c.program
    position := c.position
    callStack := c.callStack ++ base.callStack
    continuations := c.continuations ++ base.suspended :: base.continuations }

namespace Control

theorem exists_of_ret {c after : Control} (back : c.ret? = some after) :
    ∃ position rest, c.callStack = position :: rest ∧
      after = { c with position, callStack := rest } := by
  rw [ret?] at back
  split at back
  · cases back
  · next stack =>
    cases back
    exact ⟨_, _, stack, rfl⟩

/-- What can return when alone returns to the same position on top of others. -/
theorem ret?_on {c base : Control} {position : Nat} {rest : List Nat}
    (stack : c.callStack = position :: rest) :
    (c.on base).ret? = some (({ c with position, callStack := rest } : Control).on base) := by
  simp [ret?, on, stack]

end Control

variable {σ : Type}

def Operation.Blind (functions : Set String) : Operation σ → Prop
  | .load _ | .loadSub _ | .lock | .reset => False
  | .registerFunction name function =>
      name ∈ functions → function.Respects Outlook.SameButControl functions
  | .clearTrace | .setStatic .. | .declare .. | .register .. | .installEvaluator _ => True

/-- An act neither sees nor changes the control state, as far as it is not about what comes next. -/
def Action.Blind (functions : Set String) : Action σ → Prop
  | .perform operation _ => operation.Blind functions
  | .observe next => ∀ view other, View.SameButControl view other → next other = next view
  | .records next => ∀ trace other, other.leveled = trace.leveled → next other = next trace
  | .evaluate operand embedded _ => embedded = false → operand.Within functions
  | .ask .. => False
  | .done _ | .react .. | .consult _ | .settings _ => True

theorem Operation.Blind.respects {functions : Set String} {operation : Operation σ}
    (blind : operation.Blind functions) :
    operation.Respects Outlook.SameButControl functions := by
  cases operation with
  | registerFunction => exact blind
  | _ => trivial

namespace Engine

/-- The host code that a vocabulary names is blind. The functions see neither the control state nor
the depths that the trace records, as long as their arguments call no other functions. -/
abbrev Blind (v : Vocabulary) (e : Engine σ) : Prop :=
  e.Conducts (Action.Blind v.functions) v.calls Outlook.SameButControl v.functions

/-- An engine is as another one, on top of what lies beneath. -/
def Atop (base : Control) (e f : Engine σ) : Prop :=
  ∃ trace, trace.leveled = e.trace.leveled ∧ f = { e with control := e.control.on base, trace }

/-- A program is alone on an engine, and its host code is blind. -/
structure Solitary (sub : Program) (v : Vocabulary) (e : Engine σ) : Prop where
  program : e.control.program = sub
  alone : e.control.continuations = []
  unlocked : e.control.locked = false
  blind : e.Blind v

variable {v : Vocabulary} {sub : Program} {base : Control} {e f after : Engine σ}

/-- Neither the position, nor the call stack, nor the variables matter. -/
theorem Solitary.congr (solitary : e.Solitary sub v)
    (program : f.control.program = e.control.program)
    (continuations : f.control.continuations = e.control.continuations)
    (locked : f.control.locked = e.control.locked) (components : f.components = e.components)
    (functions : f.functions = e.functions) : f.Solitary sub v where
  program := program.trans solitary.program
  alone := continuations.trans solitary.alone
  unlocked := locked.trans solitary.unlocked
  blind := solitary.blind.congr components functions

theorem Atop.looksLike (atop : e.Atop base f) : e.LooksLike Outlook.SameButControl f := by
  obtain ⟨trace, same, rfl⟩ := atop
  exact ⟨rfl, rfl, rfl, rfl, fun world => ⟨_, trace, same, rfl⟩⟩

theorem Atop.record (atop : e.Atop base f) (instruction : Instruction) :
    (e.record instruction).Atop base (f.record instruction) := by
  obtain ⟨trace, same, rfl⟩ := atop
  rw [Engine.record, Engine.record]
  split
  · refine ⟨trace.push e.control.position _ instruction, ?_, rfl⟩
    rw [Trace.leveled_push, Trace.leveled_push, same]
  · exact ⟨trace, same, rfl⟩

theorem Atop.steer {move : Control → Control} (atop : e.Atop base f)
    (moves : move (e.control.on base) = (move e.control).on base) :
    (e.steer move).Atop base (f.steer move) := by
  obtain ⟨trace, same, rfl⟩ := atop
  exact ⟨trace, same, by simp only [Engine.steer, moves]⟩

theorem Atop.world (atop : e.Atop base f) (world : World σ) :
    ({ e with world } : Engine σ).Atop base { f with world } := by
  obtain ⟨trace, same, rfl⟩ := atop
  exact ⟨trace, same, rfl⟩

theorem Atop.setStatic (atop : e.Atop base f) (name : String) (value : Value) :
    (e.setStatic name value).Atop base (f.setStatic name value) := by
  obtain ⟨trace, same, rfl⟩ := atop
  exact ⟨trace, same, rfl⟩

/-! ## Components -/

theorem Atop.perform {operation : Operation σ} (blind : operation.Blind v.functions)
    (atop : e.Atop base f) : (e.perform operation).Atop base (f.perform operation) := by
  obtain ⟨trace, same, rfl⟩ := atop
  cases operation with
  | load | loadSub | lock | reset => exact blind.elim
  | clearTrace =>
    refine ⟨trace.clear, ?_, rfl⟩
    rw [Trace.leveled_clear, same]
    rfl
  | _ => exact ⟨trace, same, rfl⟩

/-- What a blind component does leaves the control state alone, and the host code blind. -/
theorem Blind.acts {action next : Action σ} (blind : e.Blind v)
    (acting : action.Throughout (Action.Blind v.functions) v.calls)
    (acts : e.Acts action next after) :
    next.Throughout (Action.Blind v.functions) v.calls ∧ after.Blind v ∧
      after.control = e.control := by
  obtain ⟨onward, kept⟩ := Conducts.acts blind (fun _ _ => Operation.Blind.respects) acting acts
  refine ⟨onward, kept, ?_⟩
  cases acts with
  | perform operation =>
    have calm := acting.here
    cases operation with
    | load | loadSub | lock | reset => exact calm.elim
    | _ => rfl
  | _ => rfl

/-- A blind component does the same on top of others. -/
theorem Atop.acts {action next : Action σ} (atop : e.Atop base f) (blind : e.Blind v)
    (acting : action.Blind v.functions) (acts : e.Acts action next after) :
    ∃ below, f.Acts action next below ∧ after.Atop base below := by
  have alike := atop.looksLike
  cases acts with
  | perform operation => exact ⟨_, .perform _ _, atop.perform acting⟩
  | react ran => exact ⟨_, .react (by rw [alike.world, ran]), atop.world _⟩
  | consult next =>
    refine ⟨f, ?_, atop⟩
    rw [← alike.world]
    exact .consult next
  | observe next =>
    obtain ⟨trace, same, rfl⟩ := atop
    rw [← acting e.view _ ⟨_, rfl⟩]
    exact ⟨_, .observe next, trace, same, rfl⟩
  | settings next =>
    obtain ⟨trace, same, rfl⟩ := atop
    exact ⟨_, .settings next, trace, same, rfl⟩
  | records next =>
    obtain ⟨trace, same, rfl⟩ := atop
    rw [← acting e.trace trace same]
    exact ⟨_, .records next, trace, same, rfl⟩
  | @evaluate fuel operand embedded _ _ _ evaluated =>
    have evaluates := alike.evaluateOperand_eq blind.functions fuel acting
    exact ⟨_, .evaluate (evaluates.trans evaluated), atop.world _⟩

/-! ## Instructions -/

theorem Solitary.record (solitary : e.Solitary sub v) (instruction : Instruction) :
    (e.record instruction).Solitary sub v := by
  rw [Engine.record]
  split
  · exact solitary.congr rfl rfl rfl rfl rfl
  · exact solitary

theorem Solitary.within {instruction : Instruction} (solitary : e.Solitary sub v)
    (within : sub.Within v) (next : e.control.instruction? = some instruction) :
    instruction.Within v := by
  rw [Control.instruction?, solitary.program] at next
  exact within instruction (List.mem_of_getElem? next)

/-- An instruction of a program that is alone does the same on top of others, unless it calls a
component. A return takes back a call of the program itself, since it would fail otherwise. -/
theorem Solitary.execute {fuel : Nat} {instruction : Instruction} {pacing : Pacing}
    (solitary : e.Solitary sub v) (within : instruction.Within v)
    (simple : e.calledAction? instruction = none) (atop : e.Atop base f)
    (ran : Engine.execute fuel instruction e = some (.ok pacing, after)) :
    ∃ below, Engine.execute fuel instruction f = some (.ok pacing, below) ∧
      after.Atop base below ∧ after.Solitary sub v := by
  have alike := atop.looksLike
  cases fuel with
  | zero => simp [Engine.execute] at ran
  | succ fuel =>
    cases executed_of_execute ran with
    | stored evaluated =>
      rw [← alike.evaluateOperand_eq solitary.blind.functions fuel within] at evaluated
      refine ⟨_, by simp only [Engine.execute, evaluated]; rfl, ?_, ?_⟩
      · exact ((atop.world _).setStatic _ _).steer rfl
      · exact solitary.congr rfl rfl rfl rfl rfl
    | assigned declared evaluated notified =>
      rw [← alike.evaluateOperand_eq solitary.blind.functions fuel within] at evaluated
      rw [← alike.world] at declared
      refine ⟨_, by simp only [Engine.execute, declared, if_pos, evaluated, notified]; rfl, ?_, ?_⟩
      · exact (atop.world _).steer rfl
      · exact solitary.congr rfl rfl rfl rfl rfl
    | jumped target => exact ⟨_, rfl, atop.steer rfl, solitary.congr rfl rfl rfl rfl rfl⟩
    | branched evaluated leads =>
      rw [← alike.evaluateOperand_eq solitary.blind.functions fuel within] at evaluated
      refine ⟨_, by simp only [Engine.execute, evaluated, Except.bind, leads]; rfl, ?_, ?_⟩
      · exact (atop.world _).steer rfl
      · exact solitary.congr rfl rfl rfl rfl rfl
    | called target => exact ⟨_, rfl, atop.steer rfl, solitary.congr rfl rfl rfl rfl rfl⟩
    | returned back =>
      obtain ⟨position, rest, stack, rfl⟩ := Control.exists_of_ret back
      obtain ⟨trace, same, rfl⟩ := atop
      have backOn := @Control.ret?_on _ base _ _ stack
      refine ⟨_, by simp only [Engine.execute, backOn], ⟨trace, same, rfl⟩, ?_⟩
      exact solitary.congr rfl rfl rfl rfl rfl
    | performed found =>
      rw [calledAction?_callComponent found] at simple
      cases simple

end Engine

end DialogueEngine
