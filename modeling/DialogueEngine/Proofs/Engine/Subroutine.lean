import DialogueEngine.Proofs.Engine.Machine.Turn

/-!
# Subroutines

As long as a program is left to itself, its calls and returns match: every position on the call
stack is right after a call, and what a call has put there stays until the return that takes it away
and goes on from it.
-/

namespace DialogueEngine

/-- A position right after a call. -/
def Program.AfterCall (program : Program) (position : Nat) : Prop :=
  1 ≤ position ∧ position ≤ program.length ∧ ∃ target, program[position - 1]? = some (.call target)

theorem Program.afterCall_of_next {program : Program} {position : Nat} {target : UInt64}
    (next : program[position]? = some (.call target)) : program.AfterCall (position + 1) := by
  obtain ⟨inside, -⟩ := List.getElem?_eq_some_iff.mp next
  exact ⟨Nat.succ_pos _, inside, target, next⟩

namespace Situation

variable {σ : Type} {c next : Situation σ} {program : Program} {stack : List Nat}

/-- Nothing is about to replace, suspend or reset the active program, and no component is about to
make the engine execute an instruction of it. -/
structure Undisturbed (c : Situation σ) : Prop where
  noLoad (program : Program) : ¬ c.Performs (.load program)
  noLoadSub (program : Program) : ¬ c.Performs (.loadSub program)
  noReset : ¬ c.Performs .reset
  outside (instruction : Instruction) : c.Runs instruction → c.snapshots = []

theorem undisturbed_of_activity
    (idle : ∀ operation next, c.activity ≠ .act (.perform operation next))
    (outside : c.snapshots = []) : c.Undisturbed where
  noLoad program := by
    rintro ⟨next, same⟩
    exact idle _ next same
  noLoadSub program := by
    rintro ⟨next, same⟩
    exact idle _ next same
  noReset := by
    rintro ⟨next, same⟩
    exact idle _ next same
  outside _ _ := outside

/-- One thing is done, and it does not disturb the active program. -/
def Stride (c next : Situation σ) : Prop := c.Undisturbed ∧ Tick c next

/-- A program is alone on an engine, with nothing but its own calls on the call stack, and no
component that is under way has changed that. -/
structure Disciplined (program : Program) (c : Situation σ) : Prop where
  active : c.control.program = program
  alone : c.control.continuations = []
  returns : ∀ position ∈ c.control.callStack, program.AfterCall position
  snapshots : ∀ before ∈ c.snapshots, before.program = program ∧ before.continuations = [] ∧
    before.callStack = c.control.callStack

/-- The active program stays, and the call stack changes only by calls and returns. -/
structure Flows (c next : Situation σ) : Prop where
  program : next.control.program = c.control.program
  continuations : next.control.continuations = c.control.continuations
  callStack : next.control.callStack = c.control.callStack ∨
    (∃ target, c.Runs (.call target) ∧
      next.control.callStack = (c.control.position + 1) :: c.control.callStack) ∨
    (c.Runs .ret ∧ c.control.callStack = next.control.position :: next.control.callStack)

theorem Disciplined.flows (disciplined : c.Disciplined program) (turn : c.Turn next)
    (undisturbed : c.Undisturbed) : c.Flows next := by
  obtain ⟨active, alone, -, snapshots⟩ := disciplined
  cases turn with
  | steers steers =>
    generalize after : next.control = control at steers
    cases steers with
    | stay same =>
      subst after
      exact ⟨same.program, same.continuations, .inl same.callStack⟩
    | load performs => exact absurd performs (undisturbed.noLoad _)
    | loadSub performs => exact absurd performs (undisturbed.noLoadSub _)
    | reset performs => exact absurd performs undisturbed.noReset
    | resume resume =>
      have suspended := Control.continuations_of_resume resume
      rw [alone] at suspended
      cases suspended
    | jump =>
      refine ⟨?_, ?_, .inl ?_⟩ <;> rw [after] <;> rfl
    | call runs =>
      refine ⟨?_, ?_, .inr (.inl ⟨_, runs, ?_⟩)⟩ <;> rw [after] <;> rfl
    | ret runs back =>
      subst after
      obtain ⟨program, callStack, continuations⟩ := Control.returns_of_ret back
      exact ⟨program, continuations, .inr (.inr ⟨runs, callStack⟩)⟩
  | enters _ control | leaves control =>
    refine ⟨?_, ?_, .inl ?_⟩ <;> rw [control] <;> rfl
  | rollsBack _ control left =>
    subst control
    have kept := snapshots next.control (by rw [left]; exact List.mem_cons_self)
    exact ⟨kept.1.trans active.symm, kept.2.1.trans alone.symm, .inl kept.2.2⟩

/-- While a component is under way, the call stack stays as it was when the component was called. -/
theorem Disciplined.snapshots_of_turn (disciplined : c.Disciplined program) (turn : c.Turn next)
    (undisturbed : c.Undisturbed) :
    ∀ before ∈ next.snapshots, before.program = program ∧ before.continuations = [] ∧
      before.callStack = next.control.callStack := by
  have flows := disciplined.flows turn undisturbed
  have nothing {instruction : Instruction} {before : Control} (runs : c.Runs instruction)
      (mem : before ∈ c.snapshots) : False := by
    rw [undisturbed.outside _ runs] at mem
    cases mem
  obtain ⟨active, alone, -, snapshots⟩ := disciplined
  intro before mem
  cases turn with
  | steers _ same =>
    rw [same] at mem
    have kept := snapshots before mem
    refine ⟨kept.1, kept.2.1, ?_⟩
    rcases flows.callStack with stack | ⟨target, runs, -⟩ | ⟨runs, -⟩
    · exact kept.2.2.trans stack.symm
    · exact (nothing runs mem).elim
    · exact (nothing runs mem).elim
  | enters runs control entered =>
    rw [entered, undisturbed.outside _ runs, List.mem_singleton] at mem
    rw [mem, control]
    exact ⟨active, alone, rfl⟩
  | leaves control left =>
    rw [control]
    exact snapshots before (by rw [left]; exact List.mem_cons_of_mem _ mem)
  | rollsBack _ control left =>
    have kept := snapshots before (by rw [left]; exact List.mem_cons_of_mem _ mem)
    have same := snapshots _ (by rw [left]; exact List.mem_cons_self)
    rw [control]
    exact ⟨kept.1, kept.2.1, kept.2.2.trans same.2.2.symm⟩

theorem Disciplined.stride (disciplined : c.Disciplined program) (stride : Stride c next) :
    next.Disciplined program := by
  obtain ⟨undisturbed, tick⟩ := stride
  have flows := disciplined.flows tick.turn undisturbed
  refine ⟨flows.program.trans disciplined.active, flows.continuations.trans disciplined.alone, ?_,
    disciplined.snapshots_of_turn tick.turn undisturbed⟩
  intro position mem
  rcases flows.callStack with same | ⟨target, ⟨mode, executed, -, begins⟩, pushed⟩ | ⟨-, popped⟩
  · rw [same] at mem
    exact disciplined.returns position mem
  · rw [pushed] at mem
    rcases List.mem_cons.mp mem with rfl | mem
    · have next : c.control.program[c.control.position]? = some (.call target) := begins.next
      rw [disciplined.active] at next
      exact Program.afterCall_of_next next
    · exact disciplined.returns position mem
  · exact disciplined.returns position (by rw [popped]; exact List.mem_cons_of_mem _ mem)

/-- What a call has put on the call stack stays as long as the stack stays as high. -/
theorem Disciplined.suffix (disciplined : c.Disciplined program) (stride : Stride c next)
    (under : stack <:+ c.control.callStack) (high : stack.length ≤ next.control.callStack.length) :
    stack <:+ next.control.callStack := by
  obtain ⟨undisturbed, tick⟩ := stride
  rcases (disciplined.flows tick.turn undisturbed).callStack with
    same | ⟨target, -, pushed⟩ | ⟨-, popped⟩
  · rwa [same]
  · rw [pushed]
    exact under.trans (List.suffix_cons _ _)
  · rw [popped] at under
    exact List.suffix_of_suffix_length_le under (List.suffix_cons _ _) high

/-- The stack falls below what a call has put there only by the return to that. -/
theorem Disciplined.returned {position : Nat} (disciplined : c.Disciplined program)
    (stride : Stride c next) (under : position :: stack <:+ c.control.callStack)
    (low : next.control.callStack.length ≤ stack.length) :
    c.Runs .ret ∧ next.control.position = position ∧ next.control.callStack = stack := by
  obtain ⟨undisturbed, tick⟩ := stride
  have shorter : ¬ position :: stack <:+ next.control.callStack := by
    intro under
    exact Nat.not_succ_le_self _ (Nat.le_trans under.length_le low)
  rcases (disciplined.flows tick.turn undisturbed).callStack with
    same | ⟨target, -, pushed⟩ | ⟨runs, popped⟩
  · exact absurd (same ▸ under) shorter
  · exact absurd (pushed ▸ under.trans (List.suffix_cons _ _)) shorter
  · rw [popped] at under
    have long : (next.control.position :: next.control.callStack).length ≤
        (position :: stack).length := Nat.succ_le_succ low
    cases under.eq_of_length_le long
    exact ⟨runs, rfl, rfl⟩

theorem control_of_call {target : UInt64} (runs : c.Runs (.call target)) (tick : Tick c next) :
    next.control = c.control.call target.toNat := by
  obtain ⟨e, activity, frames⟩ := c
  obtain ⟨mode, executed, same, unlocked, found, within⟩ := runs
  cases same
  cases tick with
  | defer locked => cases unlocked.symm.trans locked
  | halt _ finished | resume _ finished => cases found.symm.trans finished
  | exceed _ _ reached => cases within.symm.trans reached
  | enter begins calls =>
    cases found.symm.trans begins.next
    cases calls
  | @execute _ after _ fuel _ _ _ _ begins _ ran =>
    cases found.symm.trans begins.next
    cases fuel with
    | zero => simp [Engine.execute] at ran
    | succ fuel =>
      rw [Engine.execute] at ran
      cases ran
      exact congrArg (Control.call · target.toNat) (Engine.control_record e _)

/-- The host has started a program on an engine with no other one under way. -/
theorem disciplined_start {e : Engine σ} (noCalls : e.control.callStack = [])
    (alone : e.control.continuations = []) (program : Program) (host : Action σ) :
    Disciplined program ⟨e.perform (.load program), .act host, []⟩ where
  active := rfl
  alone := alone
  returns := by
    intro position mem
    have empty : (e.perform (.load program)).control.callStack = [] := noCalls
    rw [Situation.control, empty] at mem
    cases mem
  snapshots := by
    intro before mem
    cases mem

/-- Things are done one after the other, and the call stack stays higher than it was. -/
def Deeper (height : Nat) : Situation σ → Situation σ → Prop :=
  Relation.ReflTransGen fun c next => Stride c next ∧ height < next.control.callStack.length

theorem Disciplined.deeper {program : Program} {stack : List Nat} {position : Nat}
    {called later : Situation σ} (disciplined : called.Disciplined program)
    (under : position :: stack <:+ called.control.callStack)
    (deeper : Deeper stack.length called later) :
    later.Disciplined program ∧ position :: stack <:+ later.control.callStack := by
  induction deeper with
  | refl => exact ⟨disciplined, under⟩
  | tail _ step ih =>
    obtain ⟨stride, high⟩ := step
    exact ⟨ih.1.stride stride, ih.1.suffix stride ih.2 high⟩

end Situation

open Situation

variable {σ : Type}

/-- Calls and returns match in a program that is left to itself. -/
theorem returns_after_calls {e : Engine σ} (noCalls : e.control.callStack = [])
    (alone : e.control.continuations = []) (program : Program) (host : Action σ)
    {c : Situation σ}
    (path : Relation.ReflTransGen Stride ⟨e.perform (.load program), .act host, []⟩ c) :
    (∀ position ∈ c.control.callStack,
      1 ≤ position ∧ position ≤ program.length ∧
        ∃ target, program[position - 1]? = some (.call target)) ∧
    ∀ target called, c.Runs (.call target) → Stride c called →
      ∀ later, Deeper c.control.callStack.length called later →
        (c.control.position + 1) :: c.control.callStack <:+ later.control.callStack ∧
        ∀ next, Stride later next →
          next.control.callStack.length ≤ c.control.callStack.length →
          later.Runs .ret ∧ next.control.position = c.control.position + 1 ∧
            next.control.callStack = c.control.callStack := by
  have disciplined : c.Disciplined program := by
    induction path with
    | refl => exact disciplined_start noCalls alone program host
    | tail _ stride ih => exact ih.stride stride
  refine ⟨disciplined.returns, ?_⟩
  intro target called runs stride later deeper
  have pushed : called.control.callStack = (c.control.position + 1) :: c.control.callStack := by
    rw [control_of_call runs stride.2]
    rfl
  have under : (c.control.position + 1) :: c.control.callStack <:+ called.control.callStack :=
    ⟨[], pushed.symm⟩
  obtain ⟨disciplined, under⟩ := (disciplined.stride stride).deeper under deeper
  refine ⟨under, ?_⟩
  intro next stride low
  exact disciplined.returned stride under low

/-- A host that asks for a run of a program with a subroutine. -/
def subroutineStart : Situation Unit :=
  ⟨(Engine.new {} ()).perform (.load [.call 1, .ret]),
    .act (.ask .run fun _ => .done (.ok .proceed)), []⟩

def subroutineFrames : List (Frame Unit) := [.run, .request fun _ => .done (.ok .proceed)]

def atCall : Situation Unit := ⟨subroutineStart.engine, .advance .burst 0, subroutineFrames⟩

def afterCall : Situation Unit :=
  ⟨subroutineStart.engine.steer (·.call 1), .executed (.ok .proceed),
    .step .burst 0 (.call 1) 0 :: subroutineFrames⟩

def inSubroutine : Situation Unit := ⟨afterCall.engine, .advance .burst 1, subroutineFrames⟩

theorem returns_after_calls_inSubroutine :
    ∃ next : Situation Unit, Relation.ReflTransGen Stride subroutineStart atCall ∧
      atCall.Runs (.call 1) ∧ Stride atCall afterCall ∧ Deeper 0 afterCall inSubroutine ∧
      Stride inSubroutine next ∧ next.control.callStack.length ≤ 0 ∧
      inSubroutine.Runs .ret ∧ next.control.position = 1 ∧ next.control.callStack = [] := by
  have asked : Stride subroutineStart atCall :=
    ⟨undisturbed_of_activity nofun rfl, .askRun _ _ _⟩
  have path := Relation.ReflTransGen.single asked
  have runs : atCall.Runs (.call 1) := ⟨.burst, 0, rfl, rfl, rfl, rfl⟩
  have calling : Engine.execute 1 (.call 1) (atCall.engine.record (.call 1)) =
    some (.ok .proceed, afterCall.engine) := rfl
  have call : Stride atCall afterCall :=
    ⟨undisturbed_of_activity nofun rfl, .execute ⟨rfl, rfl, rfl⟩ rfl calling⟩
  have onward : Stride afterCall inSubroutine :=
    ⟨undisturbed_of_activity nofun rfl, .goOn _ _ _ _ _⟩
  have deeper : Deeper 0 afterCall inSubroutine := .single ⟨onward, Nat.zero_lt_one⟩
  have returning : Engine.execute 1 .ret (inSubroutine.engine.record .ret) =
    some (.ok .proceed, _) := rfl
  have back : Stride inSubroutine ⟨_, .executed (.ok .proceed),
      .step .burst 1 .ret 1 :: subroutineFrames⟩ :=
    ⟨undisturbed_of_activity nofun rfl, .execute ⟨rfl, rfl, rfl⟩ rfl returning⟩
  obtain ⟨-, calls⟩ := returns_after_calls rfl rfl _ _ path
  obtain ⟨-, returns⟩ := calls _ _ runs call _ deeper
  obtain ⟨ret, position, stack⟩ := returns _ back (Nat.le_refl 0)
  exact ⟨_, path, runs, call, deeper, back, Nat.le_refl 0, ret, position, stack⟩

end DialogueEngine
