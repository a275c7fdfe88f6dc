import DialogueEngine.Proofs.Engine.Budget
import DialogueEngine.Proofs.Engine.StepOutcome
import Mathlib.Data.Fintype.Pigeonhole
import Mathlib.Dynamics.PeriodicPts.Defs

/-!
# Termination of plain programs

A program that only sets static variables to literals and jumps goes where its jumps lead, whatever
its variables contain. It comes to an end unless it visits a position twice, and a step that may
execute as many instructions as the program has finds out which: there is no room for more visits
without a repetition.
-/

namespace DialogueEngine

/-- The instruction sets a static variable to a literal, or jumps. An embedded operand is no literal
but the source text of an expression. -/
inductive Instruction.Plain : Instruction → Prop where
  | setStatic (name : String) (value : Value) : Plain (.setStatic name (.literal value) false)
  | goto (target : UInt64) : Plain (.goto target)

namespace Program

variable {program : Program}

def Plain (program : Program) : Prop := ∀ instruction ∈ program, instruction.Plain

/-- The position that the instruction at a position leads to: the target of a jump, or the next
position. Past the end nothing leads on. -/
def follow (program : Program) (position : Nat) : Nat :=
  match program[position]? with
  | some (.goto target) => target.toNat
  | some _ => position + 1
  | none => position

/-- The position that some moves lead to from the start. -/
def walk (program : Program) (moves : Nat) : Nat := (follow program)^[moves] 0

/-- No position inside the program is visited twice. -/
def NeverRevisits (program : Program) : Prop :=
  ∀ i j, i < j → walk program i < program.length → walk program j ≠ walk program i

theorem walk_succ (program : Program) (moves : Nat) :
    walk program (moves + 1) = follow program (walk program moves) :=
  Function.iterate_succ_apply' _ _ _

theorem follow_of_length_le {position : Nat} (past : program.length ≤ position) :
    follow program position = position := by
  rw [follow, List.getElem?_eq_none past]

theorem walk_of_le {moves more : Nat} (past : program.length ≤ walk program moves)
    (le : moves ≤ more) : walk program more = walk program moves := by
  obtain ⟨rest, rfl⟩ := Nat.exists_eq_add_of_le' le
  rw [walk, Function.iterate_add_apply]
  exact Function.iterate_fixed (follow_of_length_le past) rest

/-- A walk that leaves the program has not been anywhere twice: it would be going in circles. -/
theorem neverRevisits_of_past {moves : Nat} (past : program.length ≤ walk program moves) :
    NeverRevisits program := by
  intro i j less inside again
  obtain ⟨period, rfl⟩ := Nat.exists_eq_add_of_le' less.le
  have periodic : Function.IsPeriodicPt (follow program) period (walk program i) := by
    rw [walk, Function.iterate_add_apply] at again
    exact again
  have circles : walk program (period * moves + i) = walk program i := by
    rw [walk, Function.iterate_add_apply]
    exact periodic.mul_const moves
  have positive : 0 < period := by omega
  have far : moves ≤ period * moves + i :=
    Nat.le_add_right_of_le (Nat.le_mul_of_pos_left moves positive)
  rw [walk_of_le past far] at circles
  omega

/-- As many moves as there are positions, all inside the program, visit some position twice. -/
theorem not_neverRevisits_of_inside
    (inside : ∀ moves ≤ program.length, walk program moves < program.length) :
    ¬ NeverRevisits program := by
  intro never
  let visit (moves : Fin (program.length + 1)) : Fin program.length :=
    ⟨walk program moves, inside moves (Nat.le_of_lt_succ moves.isLt)⟩
  obtain ⟨i, j, different, same⟩ := Fintype.exists_ne_map_eq_of_card_lt visit (by simp)
  have same : walk program i = walk program j := congrArg Fin.val same
  rcases Nat.lt_or_gt_of_ne (Fin.val_ne_of_ne different) with less | greater
  · exact never i j less (visit i).isLt same.symm
  · exact never j i greater (visit j).isLt same

end Program

namespace Engine

variable {σ : Type} {e after : Engine σ} {program : Program} {position : Nat}

/-- The engine stands at a position of a program, free to go on, and has nothing suspended. -/
structure StandsAt (program : Program) (position : Nat) (e : Engine σ) : Prop where
  program : e.control.program = program
  position : e.control.position = position
  unlocked : e.control.locked = false
  alone : e.control.continuations = []

/-- A step halts past the end of the program, to which the walk leads. -/
def HaltsAfterWalk (program : Program) (executed : Nat) (e : Engine σ) : Prop :=
  (∃ completed after, Course .burst executed e completed (.ok .halted) after ∧
      program.length ≤ after.control.position) ∧
    ∃ moves, program.length ≤ Program.walk program moves

/-- A step is cut off at a limit, up to which the walk stays inside of the program. -/
def CutOffOnWalk (program : Program) (executed limit : Nat) (e : Engine σ) : Prop :=
  (∃ completed failure after, Course .burst executed e completed (.error failure) after ∧
      failure.cause = .burstExceeded limit) ∧
    ∀ moves, executed ≤ moves → moves ≤ limit → Program.walk program moves < program.length

section

variable {instruction : Instruction} {middle : Engine σ} {executed limit : Nat}

theorem HaltsAfterWalk.onward (within : e.config.reachedLimit? executed = none)
    (executes : e.Executes instruction (.ok .proceed) middle)
    (rest : HaltsAfterWalk program (executed + 1) middle) : HaltsAfterWalk program executed e := by
  obtain ⟨⟨completed, after, course, past⟩, leaves⟩ := rest
  exact ⟨⟨_, after, .onward within executes course, past⟩, leaves⟩

theorem CutOffOnWalk.onward (within : e.config.reachedLimit? executed = none)
    (executes : e.Executes instruction (.ok .proceed) middle)
    (here : Program.walk program executed < program.length)
    (rest : CutOffOnWalk program (executed + 1) limit middle) :
    CutOffOnWalk program executed limit e := by
  obtain ⟨⟨completed, failure, after, course, cause⟩, inside⟩ := rest
  refine ⟨⟨_, failure, after, .onward within executes course, cause⟩, ?_⟩
  intro moves least most
  rcases Nat.eq_or_lt_of_le least with rfl | less
  · exact here
  · exact inside moves less most

end

namespace StandsAt

theorem settled (stands : e.StandsAt program position) : e.settled = e := by
  have last := Control.resume?_eq_none_iff.mpr stands.alone
  rw [Engine.settled, steer, Control.settled_of_last last]

theorem instruction? (stands : e.StandsAt program position) :
    e.control.instruction? = program[position]? := by
  rw [Control.instruction?, stands.program, stands.position]

/-- A plain instruction is completed, and leads to where the walk goes on. -/
theorem exists_executes {instruction : Instruction} (stands : e.StandsAt program position)
    (found : program[position]? = some instruction) (plain : instruction.Plain) :
    ∃ after, e.Executes instruction (.ok .proceed) after ∧
      after.StandsAt program (Program.follow program position) := by
  have next : e.control.instruction? = some instruction := stands.instruction?.trans found
  obtain ⟨same, rfl, unlocked, alone⟩ := stands
  cases plain with
  | setStatic name value =>
    refine ⟨_, executes_of_execute unlocked next (show execute 2 _ _ = _ from rfl), ?_⟩
    rw [Program.follow, found]
    constructor <;> simp [steer, setStatic, Control.moveOn, Control.jump, *]
  | goto target =>
    refine ⟨_, executes_of_execute unlocked next (show execute 1 _ _ = _ from rfl), ?_⟩
    rw [Program.follow, found]
    constructor <;> simp [steer, Control.jump, *]

theorem course_exceeded {instruction : Instruction} {executed : Nat}
    (stands : e.StandsAt program position) (found : program[position]? = some instruction)
    (limited : e.config.maxBurst = some executed) :
    ∃ failure after, Course .burst executed e [] (.error failure) after ∧
      failure.cause = .burstExceeded executed := by
  have next : e.settled.control.instruction? = some instruction := by
    rw [stands.settled, stands.instruction?, found]
  have reached : e.config.reachedLimit? executed = some executed := by
    simp [Config.reachedLimit?, limited]
  exact ⟨_, _, .ended (.exceeded stands.unlocked next reached), rfl⟩

theorem course_halted {executed : Nat} (stands : e.StandsAt program position)
    (past : program.length ≤ position) : Course .burst executed e [] (.ok .halted) e := by
  have finished : e.settled.control.instruction? = none := by
    rw [stands.settled, stands.instruction?, List.getElem?_eq_none past]
  have stop : Stop .burst executed e (.ok .halted) e.settled := .halted stands.unlocked finished
  rw [stands.settled] at stop
  exact .ended stop

theorem haltsAfterWalk_of_past {executed : Nat}
    (stands : e.StandsAt program (Program.walk program executed))
    (past : program.length ≤ Program.walk program executed) :
    HaltsAfterWalk program executed e := by
  refine ⟨⟨[], e, stands.course_halted past, ?_⟩, executed, past⟩
  rwa [stands.position]

/-- The induction is on what the limit leaves. -/
theorem halts_or_cutOff (plain : Program.Plain program) {executed left : Nat}
    (stands : e.StandsAt program (Program.walk program executed))
    (limited : e.config.maxBurst = some (executed + left)) :
    HaltsAfterWalk program executed e ∨ CutOffOnWalk program executed (executed + left) e := by
  induction left generalizing executed e with
  | zero =>
    rcases Nat.lt_or_ge (Program.walk program executed) program.length with inside | past
    · obtain ⟨failure, after, course, cause⟩ :=
        stands.course_exceeded (List.getElem?_eq_getElem inside) limited
      refine .inr ⟨⟨[], failure, after, course, cause⟩, fun moves least most => ?_⟩
      rwa [Nat.le_antisymm most least]
    · exact .inl (stands.haltsAfterWalk_of_past past)
  | succ left ih =>
    rcases Nat.lt_or_ge (Program.walk program executed) program.length with inside | past
    · obtain ⟨middle, executes, moved⟩ := stands.exists_executes
        (List.getElem?_eq_getElem inside) (plain _ (List.getElem_mem inside))
      rw [← Program.walk_succ] at moved
      have kept : middle.config = e.config := Completes.config_eq ⟨_, _, executes⟩
      have within : e.config.reachedLimit? executed = none := by
        rw [reachedLimit?_eq_none_iff, limited]
        exact allows_some (by omega)
      have total : executed + (left + 1) = executed + 1 + left := by omega
      rw [total] at limited ⊢
      exact (ih moved (kept ▸ limited)).imp (.onward within executes)
        (.onward within executes inside)
    · exact .inl (stands.haltsAfterWalk_of_past past)

end StandsAt

theorem standsAt_new (config : Config) (host : σ) (program : Program) :
    ((Engine.new config host).perform (.load program)).StandsAt program
      (Program.walk program 0) := ⟨rfl, rfl, rfl, rfl⟩

/-- A run is over when its first step does not pause. -/
theorem Course.answersRun {completed : List (Engine σ)} {result : Except Failure StepOutcome}
    (course : Course .burst 0 e completed result after) (unpaused : result ≠ .ok .paused) :
    e.Answers .run (result.map some) after := by
  obtain ⟨fuel, advanced⟩ := course.advance
  have burst : result ≠ .ok .stepped := by
    rintro rfl
    rcases course.final_of_burst with ⟨stepped, -⟩ | stop
    · cases stepped
    · cases stop
  refine ⟨fuel + 2, ?_⟩
  rw [answer, runThrough, advanced]
  rcases result with failure | outcome
  · rfl
  · cases outcome with
    | halted | deferred => rfl
    | paused => exact absurd rfl unpaused
    | stepped => exact absurd rfl burst

/-- A plain program, run with a limit that is no less than its length, halts past its end if and
only if its walk never revisits a position, and is cut off at the limit otherwise. -/
theorem halts_iff_neverRevisits (config : Config) (host : σ) {program : Program} {limit : Nat}
    (plain : Program.Plain program) (limited : config.maxBurst = some limit)
    (enough : program.length ≤ limit) :
    ((∃ after, ((Engine.new config host).perform (.load program)).Answers .run
        (.ok (some .halted)) after ∧ program.length ≤ after.control.position) ↔
      Program.NeverRevisits program) ∧
    (¬ Program.NeverRevisits program →
      ∃ failure after, ((Engine.new config host).perform (.load program)).Answers .run
        (.error failure) after ∧ failure.cause = .burstExceeded limit) := by
  have stands := standsAt_new config host program
  have limited : config.maxBurst = some (0 + limit) := by rw [limited, Nat.zero_add]
  rcases stands.halts_or_cutOff plain limited with
    ⟨⟨_, after, course, past⟩, _, leaves⟩ | ⟨⟨_, failure, after, course, cause⟩, inside⟩
  · have never := Program.neverRevisits_of_past leaves
    have answers := course.answersRun nofun
    exact ⟨iff_of_true ⟨after, answers, past⟩ never, fun revisits => absurd never revisits⟩
  · have revisits : ¬ Program.NeverRevisits program :=
      Program.not_neverRevisits_of_inside fun moves le =>
        inside moves (Nat.zero_le _) (by omega)
    have answers := course.answersRun nofun
    rw [Nat.zero_add] at cause
    refine ⟨iff_of_false ?_ revisits, fun _ => ⟨failure, after, answers, cause⟩⟩
    rintro ⟨last, halted, -⟩
    cases (answers.unique halted).1

/-- Each position is visited once, though not in order. -/
def zigzag : Program := [.goto 2, .goto 9, .setStatic "x" (.literal .nil) false, .goto 1]

/-- The last jump leads back to the start. -/
def roundabout : Program := [.goto 2, .goto 0, .setStatic "x" (.literal .nil) false, .goto 1]

theorem halts_iff_neverRevisits_zigzag :
    (Program.Plain zigzag ∧ zigzag.length = 4 ∧ Program.NeverRevisits zigzag ∧
      ∃ after, ((Engine.new { maxBurst := some 4 } ()).perform (.load zigzag)).Answers .run
        (.ok (some .halted)) after ∧ 4 ≤ after.control.position) ∧
    (Program.Plain roundabout ∧ roundabout.length = 4 ∧ ¬ Program.NeverRevisits roundabout ∧
      ∃ failure after, ((Engine.new { maxBurst := some 4 } ()).perform (.load roundabout)).Answers
        .run (.error failure) after ∧ failure.cause = .burstExceeded 4) := by
  have plain (last : UInt64) : Program.Plain
      [.goto 2, .goto last, .setStatic "x" (.literal .nil) false, .goto 1] := by
    simp [Program.Plain, Instruction.Plain.goto, Instruction.Plain.setStatic]
  have past : zigzag.length ≤ Program.walk zigzag 4 := by decide
  have leaves := Program.neverRevisits_of_past past
  have returns : ¬ Program.NeverRevisits roundabout := fun never =>
    never 0 4 (by decide) (by decide) (by decide)
  exact ⟨⟨plain 9, rfl, leaves,
      (halts_iff_neverRevisits _ _ (plain 9) rfl (Nat.le_refl 4)).1.mpr leaves⟩,
    plain 0, rfl, returns, (halts_iff_neverRevisits _ _ (plain 0) rfl (Nat.le_refl 4)).2 returns⟩

end Engine

end DialogueEngine
