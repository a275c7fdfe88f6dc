import DialogueEngine.Proofs.Engine.Course
import DialogueEngine.Proofs.Engine.Subroutine
import Mathlib.Data.List.Forall2

/-!
# Calls across programs

All programs under way share one call stack. A ledger that is kept beside the machine tells which of
them have calls to return to, and where. As long as no sub-program ends in the middle of calls, and
no program returns without one while others wait for theirs, the ledger agrees with the call stack:
every return goes back to a call of its own program. Otherwise a return may lead a program to a
position that another one has put there.
-/

namespace DialogueEngine

namespace Control

/-- The programs and their calls are the same; the active one may be at another position, and the
lock may be another. -/
structure SameCalls (c after : Control) : Prop where
  program : after.program = c.program
  callStack : after.callStack = c.callStack
  continuations : after.continuations = c.continuations

theorem callStack_of_resume {c after : Control} (resume : c.resume? = some after) :
    after.callStack = c.callStack := by
  rw [resume?] at resume
  split at resume
  · cases resume
  · cases resume
    rfl

theorem ret?_eq_none_iff {c : Control} : c.ret? = none ↔ c.callStack = [] := by
  rw [ret?]
  split <;> simp_all

end Control

/-- What a tick means for the programs under way and for their calls. -/
inductive Deed where
  | load
  | loadSub
  | reset
  /-- The active program is at its end, and the last one that was suspended goes on. -/
  | finish
  | call (position : Nat)
  | ret
  /-- A component is called. -/
  | enter
  /-- A component is done. -/
  | leave
  /-- A component has failed, and the control state from before is put back. -/
  | rollBack
  | other

/-- The part of the call stack that has grown while a program was the active one. -/
structure Account where
  /-- The positions that its own calls have put there and that it has not returned to, the innermost
  first. -/
  own : List Nat := []
  /-- What the programs that it has replaced have left there. -/
  left : List Nat := []

/-- The account of each program under way, the active one first; and the same as of each component
call under way. -/
structure Ledger where
  accounts : List Account
  saved : List (List Account) := []

namespace Account

variable (account : Account)

def stack : List Nat := account.own ++ account.left

/-- Another program takes the place of the active one. -/
def replaced : Account := { left := account.stack }

def call (position : Nat) : Account := { account with own := position :: account.own }

def ret : Account := { account with own := account.own.tail }

end Account

namespace Ledger

variable (ledger : Ledger)

/-- The account of the active program. -/
def active : Account := ledger.accounts.headD {}

/-- No program has called anything. -/
def start (depth : Nat) : Ledger := { accounts := List.replicate (depth + 1) {} }

def after : Deed → Ledger
  | .load => { ledger with accounts := ledger.active.replaced :: ledger.accounts.tail }
  | .loadSub => { ledger with accounts := {} :: ledger.accounts }
  | .reset => { ledger with accounts := [{}] }
  | .finish => { ledger with accounts := ledger.accounts.tail }
  | .call position =>
      { ledger with accounts := ledger.active.call position :: ledger.accounts.tail }
  | .ret => { ledger with accounts := ledger.active.ret :: ledger.accounts.tail }
  | .enter => { ledger with saved := ledger.accounts :: ledger.saved }
  | .leave => { ledger with saved := ledger.saved.tail }
  | .rollBack => { accounts := ledger.saved.headD [], saved := ledger.saved.tail }
  | .other => ledger

end Ledger

variable {σ : Type}

namespace Engine

/-- What an instruction means. -/
def deedOf (e : Engine σ) (instruction : Instruction) : Deed :=
  if (e.calledAction? instruction).isSome then .enter
  else
    match instruction with
    | .call _ => .call (e.control.position + 1)
    | .ret => .ret
    | _ => .other

theorem deedOf_of_component {e : Engine σ} {instruction : Instruction} {action : Action σ}
    (calls : e.calledAction? instruction = some action) : e.deedOf instruction = .enter :=
  if_pos (Option.isSome_of_eq_some calls)

theorem deedOf_of_unknown {e : Engine σ} {name : String} {args : ComponentArgs}
    (unknown : e.calledAction? (.callComponent name args) = none) :
    e.deedOf (.callComponent name args) = .other :=
  if_neg (by rw [unknown]; exact Bool.false_ne_true)

/-- What a step means that goes on after some instructions. -/
def deed (e : Engine σ) (executed : Nat) : Deed :=
  if e.control.locked then .other
  else
    match e.control.instruction? with
    | none => if e.control.resume?.isSome then .finish else .other
    | some instruction =>
        if (e.config.reachedLimit? executed).isSome then .other else e.deedOf instruction

theorem deed_of_begins {e : Engine σ} {executed : Nat} {instruction : Instruction}
    (begins : e.Begins executed instruction) : e.deed executed = e.deedOf instruction := by
  simp [deed, begins.unlocked, begins.next, begins.within]

end Engine

namespace Situation

/-- What the next tick means. -/
def deed (c : Situation σ) : Deed :=
  match c.activity, c.frames with
  | .act (.perform (.load _) _), _ => .load
  | .act (.perform (.loadSub _) _), _ => .loadSub
  | .act (.perform .reset _), _ => .reset
  | .act (.done (.ok _)), .component _ :: _ => .leave
  | .act (.done (.error _)), .component _ :: _ => .rollBack
  | .advance _ executed, _ => c.engine.deed executed
  | _, _ => .other

theorem deed_advance (e : Engine σ) (mode : StepMode) (executed : Nat) (frames : List (Frame σ)) :
    deed ⟨e, .advance mode executed, frames⟩ = e.deed executed := rfl

/-- What a tick does to the programs and calls, and to what the component calls put back. -/
inductive Does (c next : Situation σ) : Deed → Prop where
  | load {program : Program} (control : next.control = c.control.load program)
      (snapshots : next.snapshots = c.snapshots) : Does c next .load
  | loadSub {program : Program} (control : next.control = c.control.loadSub program)
      (snapshots : next.snapshots = c.snapshots) : Does c next .loadSub
  | reset (control : next.control = c.control.reset) (snapshots : next.snapshots = c.snapshots) :
      Does c next .reset
  | finish (resume : c.control.resume? = some next.control)
      (snapshots : next.snapshots = c.snapshots) : Does c next .finish
  | call {target : UInt64} (found : c.control.instruction? = some (.call target))
      (control : next.control = c.control.call target.toNat)
      (snapshots : next.snapshots = c.snapshots) : Does c next (.call (c.control.position + 1))
  | returned (back : c.control.ret? = some next.control)
      (activity : next.activity = .executed (.ok .proceed))
      (snapshots : next.snapshots = c.snapshots) : Does c next .ret
  | refused (last : c.control.ret? = none)
      (activity : next.activity = .executed (.error ⟨.returnWithoutCall, none⟩))
      (control : next.control = c.control) (snapshots : next.snapshots = c.snapshots) :
      Does c next .ret
  | enter (control : next.control = c.control.moveOn)
      (snapshots : next.snapshots = c.control :: c.snapshots) : Does c next .enter
  | leave {before : Control} (control : next.control = c.control)
      (snapshots : c.snapshots = before :: next.snapshots) : Does c next .leave
  | rollBack (snapshots : c.snapshots = next.control :: next.snapshots) : Does c next .rollBack
  | other (same : c.control.SameCalls next.control) (snapshots : next.snapshots = c.snapshots) :
      Does c next .other

end Situation

open Situation

theorem sameCalls_record (e : Engine σ) (instruction : Instruction) :
    e.control.SameCalls (e.record instruction).control := by
  rw [Engine.control_record]
  exact ⟨rfl, rfl, rfl⟩

theorem sameCalls_jump (e : Engine σ) (instruction : Instruction) (position : Nat) :
    e.control.SameCalls ((e.record instruction).control.jump position) := by
  rw [Engine.control_record]
  exact ⟨rfl, rfl, rfl⟩

/-- An instruction that calls no component does what it means. -/
theorem does_of_execute {fuel executed : Nat} {e after : Engine σ} {instruction : Instruction}
    {result : Except Failure Pacing} {mode : StepMode} {frames : List (Frame σ)}
    (begins : e.Begins executed instruction) (simple : e.calledAction? instruction = none)
    (ran : Engine.execute fuel instruction (e.record instruction) = some (result, after)) :
    Does ⟨e, .advance mode executed, frames⟩
      ⟨after, .executed result, .step mode executed instruction e.control.position :: frames⟩
      (e.deedOf instruction) := by
  have recorded := Engine.control_record e instruction
  cases fuel with
  | zero => simp [Engine.execute] at ran
  | succ fuel =>
    cases instruction with
    | call target =>
      rw [Engine.execute] at ran
      cases ran
      exact .call begins.next (congrArg (Control.call · target.toNat) recorded) rfl
    | ret =>
      rw [Engine.execute, recorded] at ran
      cases back : e.control.ret? with
      | none =>
        simp only [back] at ran
        cases ran
        exact .refused back rfl recorded rfl
      | some control =>
        simp only [back] at ran
        cases ran
        exact .returned back rfl rfl
    | callComponent name args =>
      rw [Engine.deedOf_of_unknown simple]
      cases Engine.executed_of_execute ran with
      | refused => exact .other (sameCalls_record e _) rfl
      | interrupted found | performed found =>
        rw [← Engine.calledAction?_record, Engine.calledAction?_callComponent found] at simple
        cases simple
    | setStatic | setReactive | condGoto | goto =>
      cases Engine.executed_of_execute ran with
      | refused => exact .other (sameCalls_record e _) rfl
      | _ => exact .other (sameCalls_jump e _ _) rfl

/-- Every tick does what it means. -/
theorem Tick.does {c next : Situation σ} (tick : Tick c next) : c.Does next c.deed := by
  cases tick with
  | act acts =>
    cases acts with
    | perform operation =>
      cases operation with
      | load => exact .load rfl rfl
      | loadSub => exact .loadSub rfl rfl
      | reset => exact .reset rfl rfl
      | _ => exact .other ⟨rfl, rfl, rfl⟩ rfl
    | _ => exact .other ⟨rfl, rfl, rfl⟩ rfl
  | askStep | askSingle | askRun | release | makeUp | fail | stop | pause | goOn | runOn | runOver
  | answer => exact .other ⟨rfl, rfl, rfl⟩ rfl
  | leave => exact .leave rfl rfl
  | rollBack => exact .rollBack rfl
  | @defer e _ executed _ locked =>
    have deed : e.deed executed = .other := by simp [Engine.deed, locked]
    rw [deed_advance, deed]
    exact .other ⟨rfl, rfl, rfl⟩ rfl
  | @halt e _ executed _ unlocked finished last =>
    have deed : e.deed executed = .other := by simp [Engine.deed, unlocked, finished, last]
    rw [deed_advance, deed]
    exact .other ⟨rfl, rfl, rfl⟩ rfl
  | @exceed e _ _ _ executed _ unlocked found reached =>
    have deed : e.deed executed = .other := by simp [Engine.deed, unlocked, found, reached]
    rw [deed_advance, deed]
    exact .other ⟨rfl, rfl, rfl⟩ rfl
  | @resume e _ _ executed _ unlocked finished resume =>
    have deed : e.deed executed = .finish := by simp [Engine.deed, unlocked, finished, resume]
    rw [deed_advance, deed]
    exact .finish resume rfl
  | execute begins simple ran =>
    rw [deed_advance, Engine.deed_of_begins begins]
    exact does_of_execute begins simple ran
  | @enter e instruction _ _ _ _ begins calls =>
    rw [deed_advance, Engine.deed_of_begins begins, Engine.deedOf_of_component calls]
    exact .enter (congrArg Control.moveOn (Engine.control_record e instruction)) rfl

/-! ## Runs that keep to their own calls -/

/-- Each call of the account's own is a call that the program contains. -/
def Account.Fits (program : Program) (account : Account) : Prop :=
  ∀ position ∈ account.own, Program.AfterCall program position

theorem Account.fits_of_own {program : Program} {account : Account} (own : account.own = []) :
    account.Fits program := by
  simp [Account.Fits, own]

namespace Ledger

/-- The accounts fit the programs under way and together, in their order, make up the call stack. -/
structure Accounts (c : Control) (accounts : List Account) : Prop where
  callStack : c.callStack = accounts.flatMap Account.stack
  programs : List.Forall₂ Account.Fits c.programs accounts

end Ledger

namespace Situation

/-- A ledger accounts for the calls on the stack, and for those on each stack that a component call
puts back if it fails. -/
structure Accounted (c : Situation σ) (ledger : Ledger) : Prop where
  now : Ledger.Accounts c.control ledger.accounts
  snapshots : List.Forall₂ Ledger.Accounts c.snapshots ledger.saved

/-- No sub-program is about to end in the middle of calls, and no program is about to return without
a call of its own while others wait for theirs. -/
structure Orderly (c : Situation σ) (ledger : Ledger) : Prop where
  finish : c.deed = .finish → ledger.active.stack = []
  ret : c.deed = .ret → ledger.active.own = [] → c.control.callStack = []

end Situation

namespace Ledger

variable {c after : Control} {accounts : List Account}

theorem Accounts.congr (right : Accounts c accounts) (same : c.SameCalls after) :
    Accounts after accounts where
  callStack := same.callStack.trans right.callStack
  programs := by
    rw [Control.programs, same.program, same.continuations]
    exact right.programs

theorem Accounts.exists_cons (right : Accounts c accounts) :
    ∃ active others, accounts = active :: others := by
  obtain ⟨-, programs⟩ := right
  rw [Control.programs] at programs
  cases programs with
  | cons => exact ⟨_, _, rfl⟩

variable {active : Account} {others : List Account}

/-- The account of the active program comes first, and in it the calls of that program. -/
theorem Accounts.callStack_eq (right : Accounts c (active :: others)) :
    c.callStack = active.own ++ (active.left ++ others.flatMap Account.stack) := by
  rw [right.callStack, List.flatMap_cons, Account.stack, List.append_assoc]

theorem Accounts.fits (right : Accounts c (active :: others)) : active.Fits c.program :=
  (List.forall₂_cons.mp right.programs).1

theorem Accounts.suspended (right : Accounts c (active :: others)) :
    List.Forall₂ Account.Fits (c.continuations.map Continuation.program) others :=
  (List.forall₂_cons.mp right.programs).2

theorem Accounts.load (right : Accounts c (active :: others)) (program : Program) :
    Accounts (c.load program) (active.replaced :: others) where
  callStack := right.callStack
  programs := .cons (Account.fits_of_own rfl) right.suspended

theorem Accounts.loadSub (right : Accounts c accounts) (program : Program) :
    Accounts (c.loadSub program) ({} :: accounts) where
  callStack := right.callStack
  programs := .cons (Account.fits_of_own rfl) right.programs

theorem accounts_reset (c : Control) : Accounts c.reset [{}] where
  callStack := rfl
  programs := .cons (Account.fits_of_own rfl) .nil

theorem Accounts.finish (right : Accounts c (active :: others)) (closed : active.stack = [])
    (resume : c.resume? = some after) : Accounts after others where
  callStack := by
    rw [Control.callStack_of_resume resume, right.callStack, List.flatMap_cons, closed]
    rfl
  programs := by
    have suspended := right.suspended
    rwa [Control.continuations_of_resume resume] at suspended

theorem Accounts.call (right : Accounts c (active :: others)) {target : UInt64}
    (found : c.instruction? = some (.call target)) :
    Accounts (c.call target.toNat) (active.call (c.position + 1) :: others) where
  callStack := congrArg (_ :: ·) right.callStack
  programs := by
    refine .cons ?_ right.suspended
    intro position mem
    rcases List.mem_cons.mp mem with rfl | mem
    · exact Program.afterCall_of_next found
    · exact right.fits position mem

/-- A return goes back to the last call of the active program, if that has any left. -/
theorem Accounts.returned (right : Accounts c (active :: others))
    (closed : active.own = [] → c.callStack = []) (back : c.ret? = some after) :
    ∃ older, active.own = after.position :: older ∧
      after.callStack = older ++ (active.left ++ others.flatMap Account.stack) ∧
      Program.AfterCall c.program after.position := by
  have stack := (Control.returns_of_ret back).callStack
  cases own : active.own with
  | nil =>
    rw [closed own] at stack
    cases stack
  | cons position older =>
    have callStack := right.callStack_eq
    rw [own] at callStack
    obtain ⟨rfl, rest⟩ := List.cons_eq_cons.mp (stack.symm.trans callStack)
    exact ⟨older, rfl, rest, right.fits _ (own ▸ List.mem_cons_self)⟩

theorem Accounts.ret (right : Accounts c (active :: others))
    (closed : active.own = [] → c.callStack = []) (back : c.ret? = some after) :
    Accounts after (active.ret :: others) := by
  obtain ⟨older, own, rest, -⟩ := right.returned closed back
  have back := Control.returns_of_ret back
  have returned : active.ret.own = older := congrArg List.tail own
  refine ⟨?_, ?_⟩
  · rw [rest, ← returned, ← List.append_assoc]
    rfl
  · rw [Control.programs, back.program, back.continuations]
    exact .cons (fun position mem => right.fits position (List.mem_of_mem_tail mem))
      right.suspended

/-- A return that fails finds no call at all. -/
theorem Accounts.refused (right : Accounts c (active :: others)) (last : c.ret? = none) :
    Accounts c (active.ret :: others) := by
  have empty := Control.ret?_eq_none_iff.mp last
  obtain ⟨own, -⟩ := List.append_eq_nil_iff.mp (right.callStack_eq.symm.trans empty)
  have same : active.ret = active := by rw [Account.ret, own, List.tail_nil, ← own]
  rwa [same]

end Ledger

/-- An orderly tick keeps the ledger right. -/
theorem Situation.Accounted.tick {c next : Situation σ} {ledger : Ledger}
    (accounted : c.Accounted ledger) (orderly : c.Orderly ledger) (tick : Tick c next) :
    next.Accounted (ledger.after c.deed) := by
  have does := tick.does
  obtain ⟨accounts, saved⟩ := ledger
  obtain ⟨now, snapshots⟩ := accounted
  obtain ⟨active, others, rfl⟩ := now.exists_cons
  generalize deed : c.deed = d at does
  cases does with
  | load control same => exact ⟨control ▸ now.load _, same ▸ snapshots⟩
  | loadSub control same => exact ⟨control ▸ now.loadSub _, same ▸ snapshots⟩
  | reset control same => exact ⟨control ▸ Ledger.accounts_reset _, same ▸ snapshots⟩
  | finish resume same => exact ⟨now.finish (orderly.finish deed) resume, same ▸ snapshots⟩
  | call found control same => exact ⟨control ▸ now.call found, same ▸ snapshots⟩
  | returned back _ same => exact ⟨now.ret (orderly.ret deed) back, same ▸ snapshots⟩
  | refused last _ control same => exact ⟨control ▸ now.refused last, same ▸ snapshots⟩
  | enter control entered =>
    have moved : c.control.SameCalls next.control := control ▸ ⟨rfl, rfl, rfl⟩
    exact ⟨now.congr moved, entered ▸ .cons now snapshots⟩
  | leave control left =>
    rw [left] at snapshots
    cases snapshots with
    | cons _ snapshots => exact ⟨control ▸ now, snapshots⟩
  | rollBack left =>
    rw [left] at snapshots
    cases snapshots with
    | cons before snapshots => exact ⟨before, snapshots⟩
  | other sameCalls same => exact ⟨now.congr sameCalls, same ▸ snapshots⟩

/-- One thing is done, and the ledger is kept. -/
def Situation.Entry (holds : Situation σ → Ledger → Prop) (c next : Situation σ × Ledger) : Prop :=
  holds c.1 c.2 ∧ Tick c.1 next.1 ∧ next.2 = c.2.after c.1.deed

theorem deed_of_runs_ret {c : Situation σ} (runs : c.Runs .ret) : c.deed = .ret := by
  obtain ⟨e, activity, frames⟩ := c
  obtain ⟨mode, executed, same, begins⟩ := runs
  cases same
  rw [deed_advance, Engine.deed_of_begins begins]
  rfl

theorem forall₂_fits_of_no_calls (programs : List Program) :
    List.Forall₂ Account.Fits programs (List.replicate programs.length {}) := by
  induction programs with
  | nil => exact .nil
  | cons program programs ih => exact .cons (Account.fits_of_own rfl) ih

theorem flatMap_stack_of_no_calls (depth : Nat) :
    (List.replicate depth ({} : Account)).flatMap Account.stack = [] := by
  simp [Account.stack]

/-- The host has started a program on an engine where nothing has been called. -/
theorem accounted_start {e : Engine σ} (noCalls : e.control.callStack = []) (program : Program)
    (host : Action σ) :
    Accounted ⟨e.perform (.load program), .act host, []⟩ (.start e.control.depth) := by
  have programs := forall₂_fits_of_no_calls (e.perform (.load program)).control.programs
  refine ⟨⟨?_, ?_⟩, .nil⟩
  · exact noCalls.trans (flatMap_stack_of_no_calls _).symm
  · rwa [Control.programs, List.length_cons, List.length_map] at programs

theorem Situation.Accounted.path {first last : Situation σ × Ledger}
    (accounted : first.1.Accounted first.2)
    (path : Relation.ReflTransGen (Entry Orderly) first last) :
    last.1.Accounted last.2 := by
  induction path with
  | refl => exact accounted
  | tail _ entry ih =>
    obtain ⟨orderly, tick, same⟩ := entry
    rw [same]
    exact ih.tick orderly tick

/-- As long as no sub-program ends in the middle of calls, and no program returns without one while
others wait for theirs, every return that succeeds takes back the last call of the active program
that has not returned, and goes on right after it; without such a call it fails. -/
theorem returns_within_program {e : Engine σ} (noCalls : e.control.callStack = [])
    (program : Program) (host : Action σ) {c next : Situation σ} {ledger : Ledger}
    (path : Relation.ReflTransGen (Entry Orderly)
      (⟨e.perform (.load program), .act host, []⟩, .start e.control.depth) (c, ledger))
    (orderly : c.Orderly ledger) (runs : c.Runs .ret) (tick : Tick c next) :
    (∀ pacing, next.activity = .executed (.ok pacing) →
      ∃ older, ledger.active.own = next.control.position :: older ∧
        c.control.callStack = next.control.position :: next.control.callStack ∧
        next.control.program = c.control.program ∧
        1 ≤ next.control.position ∧ next.control.position ≤ c.control.program.length ∧
        ∃ target, c.control.program[next.control.position - 1]? = some (.call target)) ∧
    (ledger.active.own = [] → next.activity = .executed (.error ⟨.returnWithoutCall, none⟩)) := by
  have accounted := (accounted_start noCalls program host).path path
  have deed := deed_of_runs_ret runs
  have does := tick.does
  rw [deed] at does
  obtain ⟨accounts, saved⟩ := ledger
  obtain ⟨active, others, rfl⟩ := accounted.now.exists_cons
  cases does with
  | returned back activity =>
    obtain ⟨older, own, -, inside⟩ := accounted.now.returned (orderly.ret deed) back
    have back := Control.returns_of_ret back
    refine ⟨fun _ _ => ⟨older, own, back.callStack, back.program, inside⟩, ?_⟩
    intro none
    cases own.symm.trans none
  | refused _ activity =>
    refine ⟨?_, fun _ => activity⟩
    intro pacing succeeds
    cases activity.symm.trans succeeds

/-! ## A return that crosses programs -/

/-- A program whose subroutine calls a component. -/
def crossing : Program := [.goto 2, .ret, .call 3, .callComponent "enter" .empty]

/-- A program that returns twice and calls once. -/
def entered : Program := [.call 1, .ret]

/-- A component that starts a sub-program. -/
def enterSub : Component Unit := fun _ => .perform (.loadSub entered) (.done (.ok .proceed))

def crossingEngine (control : Control) : Engine Unit :=
  ((Engine.new {} ()).perform (.register "enter" enterSub)).steer fun _ => control

/-- What waits for the step that the host has asked for. -/
def crossingFrames : List (Frame Unit) := [.request fun _ => .done (.ok .proceed)]

def crossingStart : Situation Unit :=
  ⟨(crossingEngine {}).perform (.load crossing),
    .act (.ask .step fun _ => .done (.ok .proceed)), []⟩

/-- In the sub-program, after some instructions. -/
def inEntered (callStack : List Nat) (executed : Nat) : Situation Unit :=
  ⟨crossingEngine
      { program := entered, position := 1, callStack, continuations := [⟨crossing, 4⟩] },
    .advance .burst executed, crossingFrames⟩

/-- Each of the two programs has a call to return to. -/
def bothCalled : Ledger := { accounts := [{ own := [1] }, { own := [3] }] }

theorem path_of_tick {c next : Situation σ} {ledger : Ledger} {last : Situation σ × Ledger}
    (orderly : c.Orderly ledger) (tick : Tick c next)
    (rest : Relation.ReflTransGen (Entry Orderly) (next, ledger.after c.deed) last) :
    Relation.ReflTransGen (Entry Orderly) (c, ledger) last :=
  .head ⟨orderly, tick, rfl⟩ rest

theorem path_inEntered :
    Relation.ReflTransGen (Entry Orderly) (crossingStart, .start 0)
      (inEntered [1, 3] 4, bothCalled) := by
  have jump : Engine.execute 1 (.goto 2) (crossingEngine { program := crossing }) =
    some (.ok .proceed, crossingEngine { program := crossing, position := 2 }) := rfl
  have call : Engine.execute 1 (.call 3) (crossingEngine { program := crossing, position := 2 }) =
    some (.ok .proceed,
      crossingEngine { program := crossing, position := 3, callStack := [3] }) := rfl
  have callAgain : Engine.execute 1 (.call 1) (crossingEngine
      { program := entered, callStack := [3], continuations := [⟨crossing, 4⟩] }) =
    some (.ok .proceed, (inEntered [1, 3] 4).engine) := rfl
  refine path_of_tick ⟨nofun, nofun⟩ (.askStep _ _ _) ?_
  refine path_of_tick ⟨nofun, nofun⟩ (.execute ⟨rfl, rfl, rfl⟩ rfl jump) ?_
  refine path_of_tick ⟨nofun, nofun⟩ (.goOn _ _ _ _ _) ?_
  refine path_of_tick ⟨nofun, nofun⟩ (.execute ⟨rfl, rfl, rfl⟩ rfl call) ?_
  refine path_of_tick ⟨nofun, nofun⟩ (.goOn _ _ _ _ _) ?_
  refine path_of_tick ⟨nofun, nofun⟩ (.enter ⟨rfl, rfl, rfl⟩ rfl) ?_
  refine path_of_tick ⟨nofun, nofun⟩ (.act (.perform _ _)) ?_
  refine path_of_tick ⟨nofun, nofun⟩ (.leave _ _ _ _) ?_
  refine path_of_tick ⟨nofun, nofun⟩ (.goOn _ _ _ _ _) ?_
  refine path_of_tick ⟨nofun, nofun⟩ (.execute ⟨rfl, rfl, rfl⟩ rfl callAgain) ?_
  exact path_of_tick ⟨nofun, nofun⟩ (.goOn _ _ _ _ _) .refl

/-- The first return in the sub-program, to its own call. -/
def ownReturn : Situation Unit :=
  ⟨(inEntered [3] 4).engine, .executed (.ok .proceed), .step .burst 4 .ret 1 :: crossingFrames⟩

theorem tick_ownReturn : Tick (inEntered [1, 3] 4) ownReturn := by
  have ran : Engine.execute 1 .ret ((inEntered [1, 3] 4).engine.record .ret) =
    some (.ok .proceed, ownReturn.engine) := rfl
  exact .execute ⟨rfl, rfl, rfl⟩ rfl ran

theorem returns_within_program_inEntered :
    (crossingEngine {}).control.callStack = [] ∧
      Relation.ReflTransGen (Entry Orderly) (crossingStart, .start 0)
        (inEntered [1, 3] 4, bothCalled) ∧
      (inEntered [1, 3] 4).Orderly bothCalled ∧ (inEntered [1, 3] 4).Runs .ret ∧
      Tick (inEntered [1, 3] 4) ownReturn ∧
      ∃ older, [1] = ownReturn.control.position :: older ∧
        [1, 3] = ownReturn.control.position :: ownReturn.control.callStack := by
  have orderly : (inEntered [1, 3] 4).Orderly bothCalled := ⟨nofun, nofun⟩
  have runs : (inEntered [1, 3] 4).Runs .ret := ⟨.burst, 4, rfl, rfl, rfl, rfl⟩
  obtain ⟨succeeds, -⟩ :=
    returns_within_program rfl _ _ path_inEntered orderly runs tick_ownReturn
  obtain ⟨older, own, stack, -⟩ := succeeds _ rfl
  exact ⟨rfl, path_inEntered, orderly, runs, tick_ownReturn, older, own, stack⟩

/-- A sub-program whose calls have all returned returns once more, to the position that its caller's
call has put on the stack. That lies beyond its end. -/
theorem return_crosses_programs :
    ∃ (ledger : Ledger) (next : Situation Unit),
      (crossingEngine {}).control.callStack = [] ∧
      Relation.ReflTransGen (Entry fun _ _ => True) (crossingStart, .start 0)
        (inEntered [3] 5, ledger) ∧
      (inEntered [3] 5).Runs .ret ∧ Tick (inEntered [3] 5) next ∧ ledger.active.own = [] ∧
      next.activity = .executed (.ok .proceed) ∧
      (inEntered [3] 5).control.program.length < next.control.position := by
  have path : Relation.ReflTransGen (Entry fun _ _ => True) (crossingStart, .start 0)
      (inEntered [1, 3] 4, bothCalled) :=
    path_inEntered.lift id fun _ _ entry => ⟨trivial, entry.2⟩
  have back : Entry (fun _ _ => True) (inEntered [1, 3] 4, bothCalled)
      (ownReturn, { accounts := [{}, { own := [3] }] }) := ⟨trivial, tick_ownReturn, rfl⟩
  have onward : Entry (fun _ _ => True) (ownReturn, { accounts := [{}, { own := [3] }] })
      (inEntered [3] 5, { accounts := [{}, { own := [3] }] }) := ⟨trivial, .goOn _ _ _ _ _, rfl⟩
  have ran : Engine.execute 1 .ret ((inEntered [3] 5).engine.record .ret) =
    some (.ok .proceed, crossingEngine
      { program := entered, position := 3, continuations := [⟨crossing, 4⟩] }) := rfl
  exact ⟨_, _, rfl, (path.tail back).tail onward, ⟨.burst, 5, rfl, rfl, rfl, rfl⟩,
    .execute ⟨rfl, rfl, rfl⟩ rfl ran, rfl, rfl, by decide⟩

end DialogueEngine
