import DialogueEngine.Proofs.Engine.Machine.Turn

/-!
# Suspended programs

A program that is suspended for another one goes on exactly where it was, at whatever depth and
whatever the host and the components do meanwhile. What may interfere is a reset, and the failure of
a component that was already under way, since that undoes the suspension itself.
-/

namespace DialogueEngine

namespace Control

variable {base older : List Continuation} {s : Continuation} {c after : Control}

theorem suffix_of_resume (under : base <:+ c.continuations) (resume : c.resume? = some after)
    (deep : base.length ≤ after.depth) : base <:+ after.continuations := by
  rw [continuations_of_resume resume] at under
  exact List.suffix_of_suffix_length_le under (List.suffix_cons _ _) deep

theorem eq_of_resume (under : s :: older <:+ c.continuations) (resume : c.resume? = some after)
    (shallow : after.depth ≤ older.length) :
    after.program = s.program ∧ after.position = s.position ∧ after.continuations = older := by
  rw [continuations_of_resume resume] at under
  have long : (⟨after.program, after.position⟩ :: after.continuations : List _).length ≤
      (s :: older).length := Nat.succ_le_succ shallow
  cases under.eq_of_length_le long
  exact ⟨rfl, rfl, rfl⟩

end Control

namespace Situation

variable {σ : Type} {c next : Situation σ} {base older : List Continuation} {s : Continuation}
  {kept : Nat}

/-- Nothing is about to happen that undoes what came after the outermost `kept` component calls had
been begun. -/
structure Spares (c : Situation σ) (kept : Nat) : Prop where
  noReset : ¬ c.Performs .reset
  inner : c.Fails → kept < c.snapshots.length

theorem spares_of_activity (noReset : ∀ next, c.activity ≠ .act (.perform .reset next))
    (noFailure : ∀ failure, c.activity ≠ .act (.done (.error failure))) : c.Spares kept where
  noReset := by
    rintro ⟨next, same⟩
    exact noReset next same
  inner := by
    rintro ⟨failure, same⟩
    exact absurd same (noFailure failure)

/-- What comes after a situation without anything that undoes it, as long as a property holds. The
number tells how many of the component calls from the beginning are still under way. -/
inductive Later (holds : Situation σ → Prop) (start : Situation σ) : Nat → Situation σ → Prop where
  | start (here : holds start) : Later holds start start.snapshots.length start
  | tick {kept : Nat} {c next : Situation σ} (before : Later holds start kept c)
      (tick : Tick c next) (spares : c.Spares kept) (here : holds next) :
      Later holds start (min kept next.snapshots.length) next

/-- At the bottom of the suspended programs lie those that lay there at first, and so it was when
the component calls were begun that came later. -/
structure Keeps (base : List Continuation) (kept : Nat) (c : Situation σ) : Prop where
  under : base <:+ c.control.continuations
  snapshots : ∃ newer older, c.snapshots = newer ++ older ∧ older.length = kept ∧
    ∀ before ∈ newer, base <:+ before.continuations

theorem Steers.suffix {after : Control} (steers : c.Steers after) (noReset : ¬ c.Performs .reset)
    (under : base <:+ c.control.continuations) (deep : base.length ≤ after.depth) :
    base <:+ after.continuations := by
  cases steers with
  | stay same => rwa [same.continuations]
  | load | jump | call => exact under
  | loadSub => exact under.trans (List.suffix_cons _ _)
  | reset performs => exact absurd performs noReset
  | resume resume => exact Control.suffix_of_resume under resume deep
  | ret runs back => rwa [(Control.returns_of_ret back).continuations]

theorem Keeps.turn (keeps : c.Keeps base kept) (turn : c.Turn next) (spares : c.Spares kept)
    (deep : base.length ≤ next.control.depth) :
    next.Keeps base (min kept next.snapshots.length) := by
  obtain ⟨under, newer, older, split, rfl, inner⟩ := keeps
  cases turn with
  | steers steers same =>
    refine ⟨steers.suffix spares.noReset under deep, newer, older, same.trans split, ?_, inner⟩
    simp [same, split]
  | enters _ control entered =>
    refine ⟨by rwa [control], c.control :: newer, older, by rw [entered, split]; rfl, ?_, ?_⟩
    · simp only [entered, split, List.length_cons, List.length_append]
      omega
    · intro before mem
      rcases List.mem_cons.mp mem with rfl | mem
      · exact under
      · exact inner before mem
  | leaves control left =>
    have under : base <:+ next.control.continuations := by rwa [control]
    rw [left] at split
    rcases List.cons_eq_append_iff.mp split with ⟨rfl, rfl⟩ | ⟨rest, rfl, same⟩
    · -- a component call from the beginning is over
      refine ⟨under, [], next.snapshots, rfl, by simp, ?_⟩
      intro before mem
      cases mem
    · refine ⟨under, rest, older, same, by simp [same], ?_⟩
      intro before mem
      exact inner before (List.mem_cons_of_mem _ mem)
  | rollsBack fails control left =>
    have newerFirst := spares.inner fails
    rw [left] at split newerFirst
    rcases List.cons_eq_append_iff.mp split with ⟨rfl, rfl⟩ | ⟨rest, rfl, same⟩
    · exact absurd newerFirst (Nat.lt_irrefl _)
    · refine ⟨?_, rest, older, same, by simp [same], ?_⟩
      · rw [control]
        exact inner _ List.mem_cons_self
      · intro before mem
        exact inner before (List.mem_cons_of_mem _ mem)

/-- The only way back to fewer suspended programs is to go on with the last one. -/
theorem Keeps.back (keeps : c.Keeps (s :: older) kept) (turn : c.Turn next)
    (spares : c.Spares kept) (shallow : next.control.depth ≤ older.length) :
    c.control.resume? = some next.control ∧ next.control.program = s.program ∧
      next.control.position = s.position ∧ next.control.continuations = older := by
  obtain ⟨under, newer, outer, split, rfl, inner⟩ := keeps
  have shorter : ¬ (s :: older) <:+ next.control.continuations := by
    intro under
    have long := under.length_le
    exact Nat.not_succ_le_self _ (Nat.le_trans long shallow)
  cases turn with
  | steers steers =>
    generalize next.control = after at steers shallow shorter ⊢
    cases steers with
    | resume resume => exact ⟨resume, Control.eq_of_resume under resume shallow⟩
    | reset performs => exact absurd performs spares.noReset
    | stay same => exact absurd (same.continuations ▸ under) shorter
    | load | jump | call => exact absurd under shorter
    | loadSub => exact absurd (under.trans (List.suffix_cons _ _)) shorter
    | ret _ back =>
      exact absurd ((Control.returns_of_ret back).continuations ▸ under) shorter
  | enters _ control => exact absurd (control ▸ under) shorter
  | leaves control => exact absurd (control ▸ under) shorter
  | rollsBack fails control left =>
    have newerFirst := spares.inner fails
    rw [left] at split newerFirst
    rcases List.cons_eq_append_iff.mp split with ⟨rfl, rfl⟩ | ⟨rest, rfl, same⟩
    · exact absurd newerFirst (Nat.lt_irrefl _)
    · exact absurd (control ▸ inner _ List.mem_cons_self) shorter

/-- A component is called. -/
structure Enters (c next : Situation σ) : Prop where
  tick : Tick c next
  calls : ∃ name args, c.Runs (.callComponent name args)
  under : next.snapshots = c.control :: c.snapshots

/-- Where a component starts from: right after the instruction that calls it. -/
theorem Enters.control_eq (enters : c.Enters next) : next.control = c.control.moveOn := by
  have under := enters.under
  cases enters.tick.turn with
  | enters _ control => exact control
  | steers _ same =>
    rw [same] at under
    exact absurd under.symm (List.cons_ne_self _ _)
  | leaves _ left | rollsBack _ _ left =>
    rw [under] at left
    have := congrArg List.length left
    simp at this
    omega

/-- Nothing happens to the control state. -/
def Untouched : Situation σ → Situation σ → Prop :=
  Relation.ReflTransGen fun c next => Tick c next ∧ next.control = c.control

theorem Untouched.control_eq (untouched : Untouched c next) : next.control = c.control := by
  induction untouched with
  | refl => rfl
  | tail _ tick ih => exact tick.2.trans ih

end Situation

open Situation

variable {σ : Type}

theorem keeps_of_later {load start c : Situation σ} {sub : Program} {kept : Nat}
    (loads : load.Performs (.loadSub sub)) (tick : Tick load start)
    (later : Later (fun c => load.control.depth < c.control.depth) start kept c) :
    c.Keeps (load.control.suspended :: load.control.continuations) kept := by
  induction later with
  | start here =>
    obtain ⟨engine, -⟩ := engine_of_performs loads tick
    have control : start.control = load.control.loadSub sub := congrArg Engine.control engine
    refine ⟨by rw [control]; exact List.suffix_rfl, [], start.snapshots, rfl, rfl, ?_⟩
    intro before mem
    cases mem
  | tick before tick spares here ih => exact ih.turn tick.turn spares here

/-- A suspended program stays where it was suspended, on top of those that had been suspended before
it, until it goes on from there. If a component suspends it before anything else that it does, it
goes on after the instruction that called the component. -/
theorem resumes_where_suspended {load start : Situation σ} {sub : Program}
    (loads : load.Performs (.loadSub sub)) (tick : Tick load start) {kept : Nat} {c : Situation σ}
    (later : Later (fun c => load.control.depth < c.control.depth) start kept c) :
    load.control.suspended :: load.control.continuations <:+ c.control.continuations ∧
      ∀ next, Tick c next → c.Spares kept → next.control.depth ≤ load.control.depth →
        c.control.resume? = some next.control ∧
        next.control.program = load.control.program ∧
        next.control.position = load.control.position ∧
        next.control.continuations = load.control.continuations ∧
        ∀ call entered : Situation σ, call.Enters entered → Untouched entered load →
          next.control.program = call.control.program ∧
          next.control.position = call.control.position + 1 := by
  have keeps := keeps_of_later loads tick later
  refine ⟨keeps.under, ?_⟩
  intro next back spares shallow
  obtain ⟨resume, program, position, continuations⟩ := keeps.back back.turn spares shallow
  refine ⟨resume, program, position, continuations, ?_⟩
  intro call entered enters untouched
  have same : load.control = call.control.moveOn := untouched.control_eq.trans enters.control_eq
  rw [program, position, same]
  exact ⟨rfl, rfl⟩

/-- A component that starts a sub-program without instructions. -/
def interlude : Component Unit := fun _ => .perform (.loadSub []) (.done (.ok .proceed))

def atInterlude : Engine Unit :=
  ((Engine.new {} ()).perform (.register "interlude" interlude)).perform
    (.load [.callComponent "interlude" .empty])

/-- The component has done nothing to the control state so far. -/
def beforeInterlude : Situation Unit :=
  ⟨atInterlude.steer Control.moveOn, .act (interlude .empty),
    [.component atInterlude.control, .step .burst 0 (.callComponent "interlude" .empty) 0]⟩

def inInterlude : Situation Unit :=
  ⟨beforeInterlude.engine.perform (.loadSub []), .act (.done (.ok .proceed)),
    beforeInterlude.frames⟩

/-- The sub-program is at its end. -/
def afterInterlude : Situation Unit := ⟨inInterlude.engine, .advance .burst 1, []⟩

theorem resumes_after_interlude :
    ∃ call next : Situation Unit, call.Enters beforeInterlude ∧
      beforeInterlude.Performs (.loadSub []) ∧ Tick beforeInterlude inInterlude ∧
      Later (fun c => beforeInterlude.control.depth < c.control.depth) inInterlude 0
        afterInterlude ∧
      Tick afterInterlude next ∧ next.control.depth ≤ beforeInterlude.control.depth ∧
      next.control.program = call.control.program ∧
      next.control.position = call.control.position + 1 := by
  have begins : atInterlude.Begins 0 (.callComponent "interlude" .empty) := ⟨rfl, rfl, rfl⟩
  have entering : Tick ⟨atInterlude, .advance .burst 0, []⟩ beforeInterlude := .enter begins rfl
  have enters : Enters _ beforeInterlude := ⟨entering, ⟨_, _, _, _, rfl, begins⟩, rfl⟩
  have loads : beforeInterlude.Performs (.loadSub []) := ⟨_, rfl⟩
  have loading : Tick beforeInterlude inInterlude := .act (.perform _ _)
  let deeper : Situation Unit → Prop := fun c => beforeInterlude.control.depth < c.control.depth
  have begun : Later deeper inInterlude 1 inInterlude := .start Nat.zero_lt_one
  have left : Later deeper inInterlude 0 _ :=
    begun.tick (.leave _ _ _ _) (spares_of_activity (by rintro _ ⟨⟩) (by rintro _ ⟨⟩))
      Nat.zero_lt_one
  have onward : Later deeper inInterlude 0 afterInterlude :=
    left.tick (.goOn _ _ _ _ _) (spares_of_activity (by rintro _ ⟨⟩) (by rintro _ ⟨⟩))
      Nat.zero_lt_one
  have resume : afterInterlude.control.resume? = some atInterlude.control.moveOn := rfl
  have back : Tick afterInterlude _ := .resume rfl rfl resume
  have spares : afterInterlude.Spares 0 :=
    spares_of_activity (by rintro _ ⟨⟩) (by rintro _ ⟨⟩)
  obtain ⟨-, resumed⟩ := resumes_where_suspended loads loading onward
  obtain ⟨-, -, -, -, first⟩ := resumed _ back spares (Nat.le_refl 0)
  obtain ⟨program, position⟩ := first _ _ enters .refl
  exact ⟨_, _, enters, loads, loading, onward, back, Nat.le_refl 0, program, position⟩

end DialogueEngine
