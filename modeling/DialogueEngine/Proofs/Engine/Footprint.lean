import DialogueEngine.Proofs.Engine.Request
import DialogueEngine.Proofs.Prelude.ReadOnly
import DialogueEngine.Proofs.Variables.Notification
import Mathlib.Logic.Relation

/-!
# The footprint of a run

An engine whose programs call no component, with only the functions of the prelude and without
subscribers, does nothing but what is written in its programs. However often it is asked for steps
and runs, it writes only the variables that they name, and all that happens to the programs is that
the innermost ones end.
-/

namespace DialogueEngine

namespace Program

variable (program : Program)

def SetsStatic (name : String) : Prop :=
  ∃ operand embedded, .setStatic name operand embedded ∈ program

def SetsReactive (name : String) : Prop :=
  ∃ operand embedded, .setReactive name operand embedded ∈ program

def CallsComponent : Prop := ∃ name args, .callComponent name args ∈ program

end Program

/-- Programs go on and end, while the lock stays as it is. -/
structure Control.Narrows (c after : Control) : Prop where
  programs : after.programs <:+ c.programs
  continuations : after.continuations <:+ c.continuations
  locked : after.locked = c.locked
  /-- Only a locked engine notes that it has been asked for a step. -/
  pending : c.locked = false → after.pending = c.pending

namespace Control.Narrows

variable {c middle after : Control}

theorem refl (c : Control) : c.Narrows c :=
  ⟨List.suffix_refl _, List.suffix_refl _, rfl, fun _ => rfl⟩

theorem trans (first : c.Narrows middle) (second : middle.Narrows after) : c.Narrows after where
  programs := second.programs.trans first.programs
  continuations := second.continuations.trans first.continuations
  locked := second.locked.trans first.locked
  pending unlocked :=
    (second.pending (first.locked.trans unlocked)).trans (first.pending unlocked)

theorem program_mem (narrows : c.Narrows after) : after.program ∈ c.programs :=
  narrows.programs.subset List.mem_cons_self

theorem jump (c : Control) (position : Nat) : c.Narrows (c.jump position) :=
  ⟨List.suffix_refl _, List.suffix_refl _, rfl, fun _ => rfl⟩

theorem call (c : Control) (target : Nat) : c.Narrows (c.call target) :=
  ⟨List.suffix_refl _, List.suffix_refl _, rfl, fun _ => rfl⟩

/-- What holds of a program that is left held of one before. -/
theorem exists_program {holds : Program → Prop} (narrows : c.Narrows after) :
    (∃ program ∈ after.programs, holds program) → ∃ program ∈ c.programs, holds program := by
  rintro ⟨program, mem, h⟩
  exact ⟨program, narrows.programs.subset mem, h⟩

theorem settled (c : Control) : c.Narrows c.settled :=
  ⟨programs_settled c, continuations_settled c, locked_settled c, fun _ => pending_settled c⟩

theorem defer (locked : c.locked = true) (mode : StepMode) : c.Narrows (c.defer mode) where
  programs := List.suffix_refl _
  continuations := List.suffix_refl _
  locked := rfl
  pending unlocked := by
    rw [locked] at unlocked
    contradiction

theorem of_ret (back : c.ret? = some after) : c.Narrows after := by
  rw [ret?] at back
  split at back
  · cases back
  · cases back
    exact ⟨List.suffix_refl _, List.suffix_refl _, rfl, fun _ => rfl⟩

end Control.Narrows

variable {σ : Type}

namespace Engine

/-- A program under way sets a static variable of that name. -/
def SetsStatic (e : Engine σ) (name : String) : Prop :=
  ∃ program ∈ e.control.programs, program.SetsStatic name

/-- A program under way sets a reactive variable of that name. -/
def SetsReactive (e : Engine σ) (name : String) : Prop :=
  ∃ program ∈ e.control.programs, program.SetsReactive name

/-- The host has no part in what the engine executes. -/
structure Unattended (e : Engine σ) : Prop where
  functions : e.OnlyPrelude
  subscribers (name : String) : e.world.subscribers name = []
  components : ∀ program ∈ e.control.programs, ¬ program.CallsComponent

/-- An engine has become another one by no more than what is written in its programs. -/
structure Confined (e after : Engine σ) : Prop where
  statics (name : String) :
    after.statics.find? name = e.statics.find? name ∨ e.SetsStatic name
  reactives (name : String) : after.world.value? name = e.world.value? name ∨ e.SetsReactive name
  declared (name : String) :
    after.world.reactives.contains name = e.world.reactives.contains name
  subscribers (name : String) : after.world.subscribers name = e.world.subscribers name
  host : after.world.host = e.world.host
  config : after.config = e.config
  components : after.components = e.components
  functions : after.functions = e.functions
  evaluator : after.evaluator = e.evaluator
  control : e.control.Narrows after.control

variable {e middle after : Engine σ}

namespace Confined

theorem of_control {control : Control} (narrows : e.control.Narrows control) :
    e.Confined { e with control } where
  statics _ := .inl rfl
  reactives _ := .inl rfl
  declared _ := rfl
  subscribers _ := rfl
  host := rfl
  config := rfl
  components := rfl
  functions := rfl
  evaluator := rfl
  control := narrows

theorem refl (e : Engine σ) : e.Confined e := of_control (.refl _)

theorem trans (first : e.Confined middle) (second : middle.Confined after) :
    e.Confined after where
  statics name := by
    rcases second.statics name with same | sets
    · rw [same]
      exact first.statics name
    · exact .inr (first.control.exists_program sets)
  reactives name := by
    rcases second.reactives name with same | sets
    · rw [same]
      exact first.reactives name
    · exact .inr (first.control.exists_program sets)
  declared name := (second.declared name).trans (first.declared name)
  subscribers name := (second.subscribers name).trans (first.subscribers name)
  host := second.host.trans first.host
  config := second.config.trans first.config
  components := second.components.trans first.components
  functions := second.functions.trans first.functions
  evaluator := second.evaluator.trans first.evaluator
  control := first.control.trans second.control

theorem record (e : Engine σ) (instruction : Instruction) :
    e.Confined (e.record instruction) := by
  rw [Engine.record]
  split
  · exact { refl e with }
  · exact refl e

theorem moveOn (e : Engine σ) : e.Confined (e.steer Control.moveOn) := of_control (.jump _ _)

theorem setStatic {name : String} (sets : e.SetsStatic name) (value : Value) :
    e.Confined (e.setStatic name value) where
  __ := refl e
  statics other := by
    rw [Engine.setStatic, NameTable.find?_insert]
    split
    · next same => exact .inr (same ▸ sets)
    · exact .inl rfl

theorem put {name : String} {cell : ReactiveVariable σ} {value : Value}
    (sets : e.SetsReactive name) (found : e.world.reactives.find? name = some cell) :
    e.Confined { e with world := e.world.put name { cell with value } } where
  __ := refl e
  reactives other := by
    rw [World.value?_put]
    split
    · next same => exact .inr (same ▸ sets)
    · exact .inl rfl
  declared other := by
    simp only [World.put, NameTable.contains, NameTable.find?_insert]
    split
    · next same =>
      subst same
      rw [found]
      rfl
    · rfl
  subscribers other := by
    rw [World.subscribers_put]
    split
    · next same =>
      subst same
      rw [World.subscribers_of_find? found]
    · rfl
  host := rfl

/-- No program is called in that could do more, and no one is subscribed. -/
theorem unattended (confined : e.Confined after) (unattended : e.Unattended) :
    after.Unattended where
  functions name function found := by
    rw [confined.functions] at found
    exact unattended.functions name function found
  subscribers name := (confined.subscribers name).trans (unattended.subscribers name)
  components program mem :=
    unattended.components program (confined.control.programs.subset mem)

end Confined

/-- An instruction of the active program does what it says and no more. -/
theorem Unattended.confined_of_execute {fuel : Nat} {instruction : Instruction}
    {result : Except Failure Pacing} (unattended : e.Unattended)
    (mem : instruction ∈ e.control.program)
    (ran : execute fuel instruction e = some (result, after)) : e.Confined after := by
  have active : e.control.program ∈ e.control.programs := List.mem_cons_self
  cases fuel with
  | zero => simp [execute] at ran
  | succ fuel =>
    cases executed_of_execute ran with
    | refused _ _ world left =>
      -- what has been evaluated before the failure has left the world as it was
      rcases left with rfl | ⟨operand, embedded, result, evaluated⟩
      · exact .refl e
      · cases unattended.functions.world_eq evaluated
        exact .refl e
    | stored evaluated =>
      cases unattended.functions.world_eq evaluated
      exact (Confined.setStatic ⟨_, active, _, _, mem⟩ _).trans (.moveOn _)
    | assigned _ evaluated notified =>
      cases unattended.functions.world_eq evaluated
      rcases World.assign_of_unsubscribed (unattended.subscribers _) notified with
        rfl | ⟨cell, found, rfl⟩
      · exact .moveOn e
      · exact (Confined.put ⟨_, active, _, _, mem⟩ found).trans (.moveOn _)
    | branched evaluated =>
      cases unattended.functions.world_eq evaluated
      exact .of_control (.jump _ _)
    | jumped target => exact .of_control (.jump _ _)
    | called target => exact .of_control (.call _ _)
    | returned back => exact .of_control (.of_ret back)
    | interrupted | performed => exact absurd ⟨_, _, mem⟩ (unattended.components _ active)

section

variable (unattended : e.Unattended)

include unattended

theorem Executes.confined {instruction : Instruction} {result : Except Failure Pacing}
    (executes : e.Executes instruction result after) : e.Confined after := by
  obtain ⟨-, next, fuel, ran⟩ := executes
  have settled : e.Confined e.settled := .of_control (.settled _)
  have recorded := settled.trans (.record e.settled instruction)
  refine recorded.trans ((recorded.unattended unattended).confined_of_execute ?_ ran)
  rw [control_record]
  exact List.mem_of_getElem? next

theorem Stop.confined {mode : StepMode} {executed : Nat} {result : Except Failure StepOutcome}
    (stop : Stop mode executed e result after) : e.Confined after := by
  cases stop with
  | deferred locked => exact .of_control (.defer locked mode)
  | halted | exceeded => exact .of_control (.settled _)
  | failed _ executes => exact executes.confined unattended

theorem Course.confined {mode : StepMode} {executed : Nat} {completed : List (Engine σ)}
    {result : Except Failure StepOutcome} (course : Course mode executed e completed result after) :
    e.Confined after := by
  induction course with
  | ended stop => exact stop.confined unattended
  | stepped _ executes | paused _ executes => exact executes.confined unattended
  | onward _ executes _ ih =>
    have first := executes.confined unattended
    exact first.trans (ih (first.unattended unattended))

theorem RunCourse.confined {completed : List (Engine σ)} {result : Except Failure StepOutcome}
    (course : RunCourse e completed result after) : e.Confined after := by
  induction course with
  | last course => exact course.confined unattended
  | onward course _ ih =>
    have first := course.confined unattended
    exact first.trans (ih (first.unattended unattended))

theorem Answers.confined {request : Request} {result : Except Failure (Option StepOutcome)}
    (steps : request ≠ .unlock) (answers : e.Answers request result after) :
    e.Confined after := by
  obtain ⟨fuel, answered⟩ := answers
  obtain ⟨completed, course⟩ := requestCourse_of_answer answered
  cases course with
  | step course | stepSingle course => exact course.confined unattended
  | run course => exact course.confined unattended
  | released | replayed => exact absurd rfl steps

end

/-- What a host that does not unlock the engine makes it do: a step or a run that comes to an end,
or an instruction of one that need not. -/
inductive Proceeds (e : Engine σ) : Engine σ → Prop where
  | asked {request : Request} {result : Except Failure (Option StepOutcome)} {after : Engine σ}
      (steps : request ≠ .unlock) (answers : e.Answers request result after) : Proceeds e after
  | executed {instruction : Instruction} {result : Except Failure Pacing} {after : Engine σ}
      (executes : e.Executes instruction result after) : Proceeds e after

/-- However often an unattended engine is asked for steps and runs, and whether they fail or not: it
writes no variables but those that its programs name, and only its programs under way go on. -/
theorem confined_of_proceeds (unattended : e.Unattended)
    (proceeds : Relation.ReflTransGen Proceeds e after) :
    e.Confined after ∧ after.control.program ∈ e.control.programs := by
  have confined : e.Confined after := by
    induction proceeds with
    | refl => exact .refl e
    | tail _ proceeds ih =>
      have unattended := ih.unattended unattended
      cases proceeds with
      | asked steps answers => exact ih.trans (answers.confined unattended steps)
      | executed executes => exact ih.trans (executes.confined unattended)
  exact ⟨confined, confined.control.program_mem⟩

/-- Pays, and returns from a call that it has not made. -/
def shop : Program := [.setReactive "gold" (.literal (.int 2)) false, .ret]

def count : Program := [.setStatic "count" (.call "+" [.literal (.int 1), .literal (.int 2)]) false]

/-- Is about to count, and to shop afterwards. -/
def errand : Engine Unit where
  control := { program := count, continuations := [⟨shop, 0⟩] }
  world := { reactives := NameTable.empty.insert "gold" { value := .int 7 }, host := () }
  functions := (Engine.new {} ()).withPrelude.functions

theorem unattended_errand : errand.Unattended where
  functions := onlyPrelude_withPrelude (e := .new {} ()) rfl
  subscribers name := by
    simp only [World.subscribers, errand, NameTable.find?_insert, NameTable.find?_empty]
    split <;> rfl
  components := by simp [errand, Control.programs, Program.CallsComponent, count, shop]

/-- The errand at the return. -/
def spent : Engine Unit :=
  { errand.setStatic "count" (.int 3) with
    world := errand.world.put "gold" { value := .int 2 }
    control := { program := shop, position := 1 } }

theorem answers_errand :
    ∃ failure, errand.Answers .run (.error failure) spent ∧ failure.cause = .returnWithoutCall :=
  ⟨_, ⟨20, rfl⟩, rfl⟩

theorem confined_of_proceeds_errand :
    errand.Unattended ∧ (∃ failure, errand.Answers .run (.error failure) spent) ∧
      spent.statics.find? "count" = some (.int 3) ∧ spent.world.value? "gold" = some (.int 2) ∧
      errand.Confined spent ∧ spent.control.program ∈ errand.control.programs := by
  obtain ⟨failure, answers, -⟩ := answers_errand
  have steps : Request.run ≠ .unlock := nofun
  have proceeds : Proceeds errand spent := .asked steps answers
  exact ⟨unattended_errand, ⟨failure, answers⟩, by simp [spent, setStatic], by simp [spent],
    confined_of_proceeds unattended_errand (.single proceeds)⟩

end Engine

end DialogueEngine
