import DialogueEngine.Proofs.Engine.Machine.Activation
import DialogueEngine.Proofs.Engine.Suspension

/-!
# The root program

Which program a reset goes back to is stored nowhere: it is found below the suspended programs. A
record that is kept beside the machine of the programs that were loaded while none was suspended
shows that this is always the last one of them, apart from those whose loading has been undone by
the failure of a component.
-/

namespace DialogueEngine

namespace Control

variable {c after : Control}

theorem root_of_top (top : c.continuations = []) : c.root = c.program := by
  simp [root, top]

/-- The root program is that of the suspended program that goes on last. -/
theorem root_of_suspended {s : Continuation} {rest : List Continuation}
    (suspended : c.continuations = s :: rest) : c.root = (rest.getLastD s).program := by
  rw [root, suspended, List.getLast?_cons, Option.map_some, Option.getD_some,
    List.getLastD_eq_getLast?]

theorem root_load_of_suspended (deep : c.continuations ≠ []) (program : Program) :
    (c.load program).root = c.root := by
  obtain ⟨s, rest, suspended⟩ := List.exists_cons_of_ne_nil deep
  rw [root_of_suspended suspended]
  exact root_of_suspended suspended

@[simp]
theorem root_loadSub (c : Control) (program : Program) : (c.loadSub program).root = c.root := by
  have added : (c.loadSub program).continuations = c.suspended :: c.continuations := rfl
  rw [root_of_suspended added]
  cases suspended : c.continuations with
  | nil => exact (root_of_top suspended).symm
  | cons s rest => rw [root_of_suspended suspended, List.getLastD_cons]

theorem root_of_resume (resume : c.resume? = some after) : after.root = c.root := by
  rw [root_of_suspended (continuations_of_resume resume)]
  cases suspended : after.continuations with
  | nil => exact root_of_top suspended
  | cons s rest => rw [root_of_suspended suspended, List.getLastD_cons]

@[simp]
theorem root_reset (c : Control) : c.reset.root = c.root := rfl

theorem SameCalls.root (same : c.SameCalls after) : after.root = c.root := by
  simp [Control.root, same.program, same.continuations]

theorem root_of_ret (back : c.ret? = some after) : after.root = c.root := by
  have returns := returns_of_ret back
  simp [root, returns.program, returns.continuations]

end Control

variable {σ : Type}

namespace Situation

/-- A program is about to be loaded while none is suspended. -/
def LoadsRoot (c : Situation σ) (program : Program) : Prop :=
  c.Performs (.load program) ∧ c.control.continuations = []

/-- The program that is about to be loaded while none is suspended. -/
def rootLoad? (c : Situation σ) : Option Program :=
  match c.activity with
  | .act (.perform (.load program) _) =>
      if c.control.continuations.isEmpty then some program else none
  | _ => none

theorem rootLoad?_eq_some_iff {c : Situation σ} {program : Program} :
    c.rootLoad? = some program ↔ c.LoadsRoot program := by
  rw [rootLoad?]
  split
  · next loaded next same =>
    constructor
    · intro found
      obtain ⟨top, same'⟩ := Option.ite_none_right_eq_some.mp found
      cases same'
      exact ⟨⟨next, same⟩, List.isEmpty_iff.mp top⟩
    · rintro ⟨⟨other, performs⟩, top⟩
      cases same.symm.trans performs
      simp [top]
  · next noLoad =>
    refine ⟨nofun, ?_⟩
    rintro ⟨⟨next, performs⟩, -⟩
    exact absurd performs (noLoad program next)

end Situation

/-! ## The record -/

/-- The programs that were loaded while none was suspended, the newest first; and the same as of
each component call under way. -/
structure RootLoads where
  loaded : List Program := []
  saved : List (List Program) := []

namespace RootLoads

variable (loads : RootLoads)

/-- The program that was loaded last; the empty one if there is none. -/
def last : Program := loads.loaded.headD []

/-- The record after a deed that may load a root program. A failing component takes back what was
loaded in it. -/
def after (root? : Option Program) : Deed → RootLoads
  | .load => { loads with loaded := root?.toList ++ loads.loaded }
  | .enter => { loads with saved := loads.loaded :: loads.saved }
  | .leave => { loads with saved := loads.saved.tail }
  | .rollBack => { loaded := loads.saved.headD [], saved := loads.saved.tail }
  | _ => loads

end RootLoads

/-- A tick, and the record of it. -/
def Recorded (c next : Situation σ × RootLoads) : Prop :=
  Tick c.1 next.1 ∧ next.2 = c.2.after c.1.rootLoad? c.1.deed

namespace Situation

variable {c next start call entered : Situation σ} {loads : RootLoads} {program : Program}

theorem deedOf_ne (e : Engine σ) (instruction : Instruction) :
    e.deedOf instruction ≠ .load ∧ e.deedOf instruction ≠ .rollBack := by
  by_cases calls : (e.calledAction? instruction).isSome
  · have enters : e.deedOf instruction = .enter := if_pos calls
    simp [enters]
  · rw [Engine.deedOf.eq_def, if_neg calls]
    cases instruction <;> simp

/-- No step loads a program or undoes something by itself. -/
theorem deed_advance_ne (e : Engine σ) (executed : Nat) :
    e.deed executed ≠ .load ∧ e.deed executed ≠ .rollBack := by
  rw [Engine.deed]
  split
  · simp
  · split
    · split <;> simp
    · split
      · simp
      · exact deedOf_ne e _

theorem performs_of_deed (loading : c.deed = .load) : ∃ program, c.Performs (.load program) := by
  rw [deed] at loading
  split at loading
  case h_1 program next same => exact ⟨program, next, same⟩
  case h_6 => exact absurd loading (deed_advance_ne c.engine _).1
  all_goals cases loading

theorem fails_of_deed (undoing : c.deed = .rollBack) : c.Fails := by
  rw [deed] at undoing
  split at undoing
  case h_5 failure _ _ same _ => exact ⟨failure, same⟩
  case h_6 => exact absurd undoing (deed_advance_ne c.engine _).2
  all_goals cases undoing

theorem rootLoad?_of_suspended (deep : c.control.continuations ≠ []) : c.rootLoad? = none := by
  rw [Option.eq_none_iff_forall_not_mem]
  intro program loads
  exact deep (rootLoad?_eq_some_iff.mp loads).2

/-- What a tick does to the root program, and to those that failing components would put back. -/
inductive Roots (c next : Situation σ) : Deed → Prop where
  | load {program : Program} (loads : c.LoadsRoot program) (root : next.control.root = program)
      (snapshots : next.snapshots = c.snapshots) : Roots c next .load
  | enter (root : next.control.root = c.control.root)
      (snapshots : next.snapshots = c.control :: c.snapshots) : Roots c next .enter
  | leave {before : Control} (root : next.control.root = c.control.root)
      (snapshots : c.snapshots = before :: next.snapshots) : Roots c next .leave
  | rollBack (fails : c.Fails) (snapshots : c.snapshots = next.control :: next.snapshots) :
      Roots c next .rollBack
  | other {deed : Deed} (root : next.control.root = c.control.root)
      (snapshots : next.snapshots = c.snapshots)
      (unrecorded : ∀ loads : RootLoads, loads.after c.rootLoad? deed = loads) : Roots c next deed

theorem roots_of_performs (performs : c.Performs (.load program)) (tick : Tick c next) :
    c.Roots next .load := by
  obtain ⟨engine, snapshots⟩ := engine_of_performs performs tick
  have control : next.control = c.control.load program := congrArg Engine.control engine
  by_cases top : c.control.continuations = []
  · refine .load ⟨performs, top⟩ ?_ snapshots
    rw [control]
    exact Control.root_of_top top
  · refine .other ?_ snapshots ?_
    · rw [control, Control.root_load_of_suspended top]
    · intro loads
      rw [RootLoads.after, rootLoad?_of_suspended top]
      rfl

theorem roots_of_tick (tick : Tick c next) : c.Roots next c.deed := by
  by_cases loading : c.deed = .load
  · obtain ⟨program, performs⟩ := performs_of_deed loading
    rw [loading]
    exact roots_of_performs performs tick
  have does := tick.does
  have undoing : c.deed = .rollBack → c.Fails := fails_of_deed
  generalize c.deed = deed at does loading undoing ⊢
  cases does with
  | load => exact absurd rfl loading
  | loadSub control snapshots =>
    exact .other (by rw [control, Control.root_loadSub]) snapshots fun _ => rfl
  | reset control snapshots =>
    exact .other (by rw [control, Control.root_reset]) snapshots fun _ => rfl
  | finish resume snapshots => exact .other (Control.root_of_resume resume) snapshots fun _ => rfl
  | returned back _ snapshots => exact .other (Control.root_of_ret back) snapshots fun _ => rfl
  | other same snapshots => exact .other same.root snapshots fun _ => rfl
  | call _ control snapshots | refused _ _ control snapshots =>
    exact .other ((congrArg Control.root control).trans rfl) snapshots fun _ => rfl
  | enter control snapshots => exact .enter ((congrArg Control.root control).trans rfl) snapshots
  | leave control snapshots => exact .leave (congrArg Control.root control) snapshots
  | rollBack snapshots => exact .rollBack (undoing rfl) snapshots

/-- The record tells the root program, and those that failing components would put back. -/
structure Recalled (c : Situation σ) (loads : RootLoads) : Prop where
  now : c.control.root = loads.last
  saved : c.snapshots.map Control.root = loads.saved.map (·.headD [])

/-- The record stays right with every tick. -/
theorem Recalled.tick (recalled : c.Recalled loads) (tick : Tick c next) :
    next.Recalled (loads.after c.rootLoad? c.deed) := by
  obtain ⟨now, saved⟩ := recalled
  have roots := roots_of_tick tick
  generalize c.deed = deed at roots ⊢
  cases roots with
  | load loads root snapshots =>
    refine ⟨?_, snapshots ▸ saved⟩
    rw [rootLoad?_eq_some_iff.mpr loads]
    exact root
  | other root snapshots unrecorded =>
    rw [unrecorded]
    exact ⟨root.trans now, snapshots ▸ saved⟩
  | enter root snapshots =>
    refine ⟨root.trans now, ?_⟩
    rw [snapshots, List.map_cons, saved, now]
    rfl
  | leave root snapshots =>
    refine ⟨root.trans now, ?_⟩
    have rest := congrArg List.tail saved
    rwa [snapshots, List.map_cons, List.tail_cons, ← List.map_tail] at rest
  | rollBack _ snapshots =>
    rw [snapshots, List.map_cons] at saved
    cases older : loads.saved with
    | nil => simp [older] at saved
    | cons loaded others =>
      rw [older] at saved
      obtain ⟨root, rest⟩ := List.cons.inj saved
      simp only [RootLoads.after, older]
      exact ⟨root, rest⟩

/-! ## Component calls under way -/

/-- What happens while a component call is under way. -/
def During (entered : Situation σ) : Situation σ → Prop :=
  Relation.ReflTransGen (fun c next => Tick c next ∧ entered.frames <:+ next.frames) entered

/-- How a tick changes what waits. -/
inductive Waits (c next : Situation σ) : Prop where
  | less (frames : next.frames <:+ c.frames)
  | more (pushed : List (Frame σ)) (plain : ∀ frame ∈ pushed, frame.snapshot? = none)
      (frames : next.frames = pushed ++ c.frames)
  | enters (enters : c.Enters next) (frame : Frame σ) (plain : frame.snapshot? = none)
      (frames : next.frames = .component c.control :: frame :: c.frames)

theorem waits_of_tick (tick : Tick c next) : c.Waits next := by
  have whole := tick
  cases tick with
  | act | release | defer | halt | resume | exceed | runOn => exact .less List.suffix_rfl
  | leave | rollBack | fail | stop | pause | goOn | runOver | answer =>
    exact .less (List.suffix_cons _ _)
  | askStep e next | askSingle e next | makeUp next =>
    exact .more [.request next] (by simp [Frame.snapshot?]) rfl
  | askRun e next => exact .more [.run, .request next] (by simp [Frame.snapshot?]) rfl
  | execute => exact .more [.step _ _ _ _] (by simp [Frame.snapshot?]) rfl
  | @enter e instruction action mode executed frames begins calls =>
    cases instruction with
    | callComponent name args =>
      exact .enters ⟨whole, ⟨name, args, mode, executed, rfl, begins⟩, rfl⟩ _ rfl rfl
    | _ => cases calls

theorem suffix_of_plain {before : Control} {rest pushed frames : List (Frame σ)}
    (plain : ∀ frame ∈ pushed, frame.snapshot? = none)
    (waiting : .component before :: rest <:+ pushed ++ frames) :
    .component before :: rest <:+ frames := by
  induction pushed with
  | nil => exact waiting
  | cons frame pushed ih =>
    obtain ⟨first, others⟩ := List.forall_mem_cons.mp plain
    rcases List.suffix_cons_iff.mp waiting with same | waiting
    · cases same
      cases first
    · exact ih others waiting

/-- A component has been called, and the call is under way since. -/
structure Calls (start call entered c : Situation σ) : Prop where
  before : Ticks start call
  enters : call.Enters entered
  during : During entered c

theorem Calls.tick (calls : Calls start call entered c) (tick : Tick c next)
    (waits : entered.frames <:+ next.frames) : Calls start call entered next :=
  ⟨calls.before, calls.enters, calls.during.tail ⟨tick, waits⟩⟩

/-- Each component that has not come to its end has been called, and the call is under way since. -/
theorem calls_of_waiting {before : Control} {rest : List (Frame σ)} (bare : start.frames = [])
    (ticks : Ticks start c) (waiting : .component before :: rest <:+ c.frames) :
    ∃ call entered, Calls start call entered c ∧ entered.frames = .component before :: rest ∧
      call.control = before := by
  induction ticks generalizing before rest with
  | refl => simp [bare] at waiting
  | @tail c next ticks tick ih =>
    have earlier (waited : .component before :: rest <:+ c.frames) :
        ∃ call entered, Calls start call entered next ∧ entered.frames = .component before :: rest ∧
          call.control = before := by
      obtain ⟨call, entered, calls, frames, control⟩ := ih waited
      exact ⟨call, entered, calls.tick tick (frames ▸ waiting), frames, control⟩
    cases waits_of_tick tick with
    | less frames => exact earlier (waiting.trans frames)
    | more pushed plain frames => exact earlier (suffix_of_plain plain (frames ▸ waiting))
    | enters enters frame plain frames =>
      rw [frames] at waiting
      rcases List.suffix_cons_iff.mp waiting with same | waited
      · cases same
        exact ⟨c, next, ⟨ticks, enters, .refl⟩, frames, rfl⟩
      · have alone : ∀ other ∈ [frame], other.snapshot? = none := by simpa using plain
        exact earlier (suffix_of_plain alone waited)

/-- While a component call is under way, the root program is the one from before, also as the
failures of further components would put it back. -/
structure RootKept (entered c : Situation σ) : Prop where
  now : c.control.root = entered.control.root
  inner : ∀ newer, c.snapshots = newer ++ entered.snapshots →
    ∀ before ∈ newer, before.root = entered.control.root

theorem RootKept.refl (entered : Situation σ) : RootKept entered entered where
  now := rfl
  inner := by
    intro newer split before mem
    rw [List.self_eq_append_left.mp split] at mem
    cases mem

theorem RootKept.tick (kept : RootKept entered c) (tick : Tick c next)
    (waits : entered.frames <:+ next.frames) (noLoad : ∀ program, ¬ c.LoadsRoot program) :
    RootKept entered next := by
  obtain ⟨now, inner⟩ := kept
  have roots := roots_of_tick tick
  generalize c.deed = deed at roots
  cases roots with
  | load loads => exact absurd loads (noLoad _)
  | other root snapshots => exact ⟨root.trans now, snapshots ▸ inner⟩
  | enter root snapshots =>
    refine ⟨root.trans now, ?_⟩
    rintro (_ | ⟨first, newer⟩) split before mem
    · cases mem
    · rw [snapshots] at split
      obtain ⟨rfl, rest⟩ := List.cons.inj split
      rcases List.mem_cons.mp mem with rfl | mem
      · exact now
      · exact inner newer rest before mem
  | @leave left root snapshots =>
    refine ⟨root.trans now, ?_⟩
    intro newer split before mem
    rw [split] at snapshots
    exact inner (left :: newer) snapshots before (List.mem_cons_of_mem _ mem)
  | rollBack _ snapshots =>
    constructor
    · obtain ⟨newer, split⟩ := List.IsSuffix.filterMap Frame.snapshot? waits
      exact inner (next.control :: newer) (by rw [snapshots, Situation.snapshots, ← split]; rfl) _
        List.mem_cons_self
    · intro newer split before mem
      rw [split] at snapshots
      exact inner (next.control :: newer) snapshots before (List.mem_cons_of_mem _ mem)

theorem rootKept_of_during (during : During entered c)
    (noLoad : ∀ load program, During entered load → Ticks load c → ¬ load.LoadsRoot program) :
    RootKept entered c := by
  induction during with
  | refl => exact .refl entered
  | tail during tick ih =>
    refine (ih ?_).tick tick.1 tick.2 ?_
    · intro load program inside later
      exact noLoad load program inside (later.tail tick.1)
    · intro program
      exact noLoad _ program during (.single tick.1)

theorem snapshot_of_fails (fails : c.Fails) (tick : Tick c next) :
    ∃ rest, c.frames = .component next.control :: rest ∧ next.frames = rest := by
  obtain ⟨e, activity, frames⟩ := c
  obtain ⟨failure, rfl⟩ := fails
  cases tick with
  | act acts => cases acts
  | rollBack => exact ⟨_, rfl, rfl⟩

/-- When a component fails, the root program is the one again that it was when the component was
called. That is a change only if it has been replaced meanwhile. -/
theorem root_of_fails (bare : start.frames = []) (ticks : Ticks start c) (fails : c.Fails)
    (tick : Tick c next) :
    ∃ call entered, Calls start call entered c ∧ c.frames = entered.frames ∧
      next.control = call.control ∧
      (next.control.root ≠ c.control.root →
        ∃ load program, During entered load ∧ Ticks load c ∧ load.LoadsRoot program) := by
  obtain ⟨rest, frames, -⟩ := snapshot_of_fails fails tick
  obtain ⟨call, entered, calls, same, control⟩ :=
    calls_of_waiting bare ticks ⟨[], frames.symm⟩
  refine ⟨call, entered, calls, frames.trans same.symm, control.symm, ?_⟩
  intro changed
  by_contra noLoad
  push Not at noLoad
  have kept := (rootKept_of_during calls.during noLoad).now
  have moved : entered.control.root = call.control.root :=
    (congrArg Control.root calls.enters.control_eq).trans rfl
  exact changed (by rw [kept, moved, control])

end Situation

open Situation

theorem recorded_of_ticks {start c : Situation σ} (ticks : Ticks start c) (first : RootLoads) :
    ∃ loads, Relation.ReflTransGen Recorded (start, first) (c, loads) := by
  induction ticks with
  | refl => exact ⟨first, .refl⟩
  | tail _ tick ih =>
    obtain ⟨loads, path⟩ := ih
    exact ⟨_, path.tail ⟨tick, rfl⟩⟩

theorem recalled_of_recorded {config : Config} {host : σ} {session : Action σ}
    {c : Situation σ × RootLoads}
    (path : Relation.ReflTransGen Recorded (⟨.new config host, .act session, []⟩, {}) c) :
    c.1.Recalled c.2 := by
  induction path with
  | refl => exact ⟨rfl, rfl⟩
  | tail _ recorded ih =>
    obtain ⟨tick, after⟩ := recorded
    rw [after]
    exact ih.tick tick

/-- Whatever the host and the components do, the root program is the last one that was loaded while
none was suspended, unless this has been undone, and a reset goes back to its start. Only such a
load changes the root program, and the failure of a component in which it was changed. -/
theorem reset_finds_root {config : Config} {host : σ} {session : Action σ} {c : Situation σ}
    (ticks : Ticks ⟨.new config host, .act session, []⟩ c) :
    (∃ loads, Relation.ReflTransGen Recorded (⟨.new config host, .act session, []⟩, {})
      (c, loads)) ∧
    (∀ loads, Relation.ReflTransGen Recorded (⟨.new config host, .act session, []⟩, {})
        (c, loads) →
      c.control.root = loads.last ∧
      (c.engine.perform .reset).control = ⟨loads.last, 0, [], [], false, none⟩) ∧
    ∀ next, Tick c next →
      (∀ program, c.LoadsRoot program → next.control.root = program) ∧
      (c.Fails → ∃ call entered, Calls ⟨.new config host, .act session, []⟩ call entered c ∧
        c.frames = entered.frames ∧ next.control = call.control ∧
        (next.control.root ≠ c.control.root →
          ∃ load program, During entered load ∧ Ticks load c ∧ load.LoadsRoot program)) ∧
      ((∀ program, ¬ c.LoadsRoot program) → ¬ c.Fails → next.control.root = c.control.root) := by
  refine ⟨recorded_of_ticks ticks {}, ?_, ?_⟩
  · intro loads path
    have root := (recalled_of_recorded path).now
    refine ⟨root, ?_⟩
    rw [← root]
    rfl
  · intro next tick
    refine ⟨?_, fun fails => root_of_fails rfl ticks fails tick, ?_⟩
    · rintro program ⟨performs, top⟩
      have engine := (engine_of_performs performs tick).1
      exact (congrArg (Control.root ∘ Engine.control) engine).trans (Control.root_of_top top)
    · intro noLoad noFailure
      have roots := roots_of_tick tick
      generalize c.deed = deed at roots
      cases roots with
      | load loads => exact absurd loads (noLoad _)
      | rollBack fails => exact absurd fails noFailure
      | enter root | leave root | other root => exact root

/-- A component that loads another program in place of the one that calls it, and then fails. -/
def usurper : Component Unit := fun _ =>
  .perform (.load [.ret]) (.done (.error ⟨.host "usurper caught", none⟩))

def kingdom : Program := [.callComponent "usurper" .empty]

def atKingdom : Engine Unit :=
  ((Engine.new {} ()).perform (.register "usurper" usurper)).perform (.load kingdom)

def afterKingdom : Except Failure (Option StepOutcome) → Action Unit :=
  fun _ => .done (.ok .proceed)

def kingdomSession : Action Unit :=
  .perform (.register "usurper" usurper) (.perform (.load kingdom) (.ask .step afterKingdom))

/-- The other program is loaded, and the component about to fail. -/
def usurped : Situation Unit :=
  ⟨(atKingdom.steer Control.moveOn).perform (.load [.ret]),
    .act (.done (.error ⟨.host "usurper caught", none⟩)),
    [.component atKingdom.control, .step .burst 0 (.callComponent "usurper" .empty) 0,
      .request afterKingdom]⟩

theorem reset_finds_root_usurped :
    ∃ loads next, Ticks ⟨.new {} (), .act kingdomSession, []⟩ usurped ∧
      Relation.ReflTransGen Recorded (⟨.new {} (), .act kingdomSession, []⟩, {})
        (usurped, loads) ∧
      loads.last = [.ret] ∧
      (usurped.engine.perform .reset).control = ⟨[.ret], 0, [], [], false, none⟩ ∧
      usurped.Fails ∧ Tick usurped next ∧ next.control.root = kingdom ∧
      ∃ load program, Ticks load usurped ∧ load.LoadsRoot program := by
  have loading : Ticks ⟨.new {} (), .act kingdomSession, []⟩
      ⟨atKingdom, .act (.ask .step afterKingdom), []⟩ :=
    .head (.act (.perform _ _)) (.single (.act (.perform _ _)))
  have entering : Tick ⟨atKingdom, .advance .burst 0, [.request afterKingdom]⟩
      ⟨atKingdom.steer Control.moveOn, .act (usurper .empty), usurped.frames⟩ :=
    .enter ⟨rfl, rfl, rfl⟩ rfl
  have ticks : Ticks ⟨.new {} (), .act kingdomSession, []⟩ usurped :=
    ((loading.tail (.askStep _ _ _)).tail entering).tail (.act (.perform _ _))
  have fails : usurped.Fails := ⟨_, rfl⟩
  have back : Tick usurped _ := .rollBack _ _ _ _
  obtain ⟨⟨loads, path⟩, found, onward⟩ := reset_finds_root ticks
  obtain ⟨root, reset⟩ := found loads path
  have last : loads.last = [.ret] := root.symm
  obtain ⟨-, failing, -⟩ := onward _ back
  obtain ⟨call, entered, -, -, -, replaced⟩ := failing fails
  have changed : kingdom ≠ [.ret] := by decide
  obtain ⟨load, program, -, later, loadsRoot⟩ := replaced changed
  exact ⟨loads, _, ticks, path, last, last ▸ reset, fails, back, rfl, load, program, later,
    loadsRoot⟩

end DialogueEngine
