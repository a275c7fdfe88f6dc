import DialogueEngine.Proofs.Engine.Machine.Simulation
import DialogueEngine.Proofs.Engine.Targets
import Mathlib.Data.List.Forall2

/-!
# Other targets

The target that a conditional jump carries is never consulted. Engines whose programs differ in
such targets alone do the same, one thing at a time: what is noticed, what comes of it and all that
is shown on the way is the same.
-/

namespace DialogueEngine

variable {σ : Type}

open Engine

/-! ## Situations -/

inductive Activity.SameButTargets : Activity σ → Activity σ → Prop where
  | act {action other : Action σ} (actions : action.SameButTargets other) :
      SameButTargets (.act action) (.act other)
  | advance (mode : StepMode) (executed : Nat) :
      SameButTargets (.advance mode executed) (.advance mode executed)
  | executed (result : Except Failure Pacing) : SameButTargets (.executed result) (.executed result)
  | stepped (result : Except Failure StepOutcome) :
      SameButTargets (.stepped result) (.stepped result)

inductive Frame.SameButTargets : Frame σ → Frame σ → Prop where
  | request {next other : Except Failure (Option StepOutcome) → Action σ}
      (rest : ∀ result, (next result).SameButTargets (other result)) :
      SameButTargets (.request next) (.request other)
  | run : SameButTargets .run .run
  | step {instruction counterpart : Instruction} (mode : StepMode) (executed position : Nat)
      (instructions : instruction.withoutTarget = counterpart.withoutTarget) :
      SameButTargets (.step mode executed instruction position)
        (.step mode executed counterpart position)
  | component {before counterpart : Control}
      (controls : before.withoutTargets = counterpart.withoutTargets) :
      SameButTargets (.component before) (.component counterpart)

structure Situation.SameButTargets (c d : Situation σ) : Prop where
  engines : c.engine.SameButTargets d.engine
  activities : c.activity.SameButTargets d.activity
  frames : List.Forall₂ Frame.SameButTargets c.frames d.frames

namespace Engine.SameButTargets

variable {e f : Engine σ} (same : e.SameButTargets f)

include same

theorem locked : e.control.locked = f.control.locked := by
  have locked := congrArg Control.locked same.control
  exact locked

theorem pending : e.control.pending = f.control.pending := by
  have pending := congrArg Control.pending same.control
  exact pending

theorem defer (mode : StepMode) :
    (e.steer (·.defer mode)).SameButTargets (f.steer (·.defer mode)) := by
  have deferred : (e.control.defer mode).withoutTargets = (f.control.defer mode).withoutTargets :=
    congrArg (Control.defer · mode) same.control
  exact { same with control := deferred }

theorem callStack : e.control.callStack = f.control.callStack := by
  have callStack := congrArg Control.callStack same.control
  exact callStack

theorem unlock : (e.steer Control.unlock).SameButTargets (f.steer Control.unlock) := by
  have unlocked := congrArg Control.unlock same.control
  exact same.steer unlocked

theorem frames : e.control.frames = f.control.frames := by
  rw [← Control.frames_withoutTargets, same.control, Control.frames_withoutTargets]

/-- A failure stands at the same place. -/
theorem contextOf {instruction counterpart : Instruction}
    (instructions : instruction.withoutTarget = counterpart.withoutTarget) (position : Nat) :
    e.control.contextOf instruction position = f.control.contextOf counterpart position := by
  rw [← Control.contextOf_withoutTargets, same.control, instructions,
    Control.contextOf_withoutTargets]

theorem begun? (executed : Nat) :
    Option.Rel (fun instruction counterpart =>
      instruction.withoutTarget = counterpart.withoutTarget)
      (e.begun? executed) (f.begun? executed) := by
  rw [Engine.begun?, Engine.begun?, same.locked, same.config]
  split
  · exact .none
  · exact same.instruction?

/-- The same instruction is about to be executed, but for its target. -/
theorem begins {executed : Nat} {instruction : Instruction}
    (begins : e.Begins executed instruction) :
    ∃ counterpart, f.Begins executed counterpart ∧
      instruction.withoutTarget = counterpart.withoutTarget := by
  have begun := same.begun? executed
  rw [e.begun?_eq_some_iff.mpr begins] at begun
  obtain ⟨counterpart, begun, instructions⟩ := exists_of_rel begun
  exact ⟨counterpart, f.begun?_eq_some_iff.mp begun, instructions⟩

end Engine.SameButTargets

section

variable {e f : Engine σ} {activity other : Activity σ} {frames others : List (Frame σ)}
  {next : Situation σ}

/-- The next tick is noticed in the same way. -/
theorem Situation.SameButTargets.notices? {c d : Situation σ} (same : c.SameButTargets d)
    (fuel : Nat) : c.notices? fuel = d.notices? fuel := by
  obtain ⟨e, activity, frames⟩ := c
  obtain ⟨f, other, others⟩ := d
  obtain ⟨engines, activities, waiting⟩ := same
  cases activities with
  | act actions =>
    have told := engines.actNotices? actions fuel
    cases actions with
    | done =>
      cases waiting with
      | nil => rfl
      | cons frame => cases frame <;> rfl
    | _ => exact told
  | advance mode executed =>
    simp only [Situation.notices?]
    have begun := engines.begun? executed
    generalize e.begun? executed = instruction at begun ⊢
    generalize f.begun? executed = counterpart at begun ⊢
    cases begun with
    | none => rfl
    | some instructions => exact (engines.record instructions).notices? instructions fuel
  | executed => rfl
  | stepped =>
    cases waiting with
    | nil => rfl
    | cons frame => cases frame <;> rfl

/-! ## Ticks -/

/-- A tick of the one is a tick of the other. -/
abbrev Matched (d next : Situation σ) : Prop := ∃ last, Tick d last ∧ next.SameButTargets last

theorem matched_of_act {action onward : Action σ} (engines : e.SameButTargets f)
    (actions : action.SameButTargets onward)
    (waiting : List.Forall₂ Frame.SameButTargets frames others)
    (tick : Tick ⟨e, .act action, frames⟩ next) : Matched ⟨f, .act onward, others⟩ next := by
  cases tick with
  | act acts =>
    obtain ⟨last, later, acts, engines, actions⟩ := engines.acts actions acts
    exact ⟨_, .act acts, engines, .act actions, waiting⟩
  | askStep =>
    cases actions with
    | ask _ rest =>
      exact ⟨_, .askStep _ _ _, engines, .advance _ _, .cons (.request rest) waiting⟩
  | askSingle =>
    cases actions with
    | ask _ rest =>
      exact ⟨_, .askSingle _ _ _, engines, .advance _ _, .cons (.request rest) waiting⟩
  | askRun =>
    cases actions with
    | ask _ rest =>
      exact ⟨_, .askRun _ _ _, engines, .advance _ _, .cons .run (.cons (.request rest) waiting)⟩
  | release _ _ idle =>
    cases actions with
    | ask _ rest =>
      rw [engines.pending] at idle
      exact ⟨_, .release _ _ idle, engines.unlock, .act (rest _), waiting⟩
  | makeUp _ _ pending =>
    cases actions with
    | ask _ rest =>
      rw [engines.pending] at pending
      exact ⟨_, .makeUp _ _ pending, engines.unlock, .advance _ _, .cons (.request rest) waiting⟩
  | leave =>
    cases actions
    cases waiting with
    | cons frame waiting =>
      cases frame
      exact ⟨_, .leave _ _ _ _, engines, .executed _, waiting⟩
  | rollBack =>
    cases actions
    cases waiting with
    | cons frame waiting =>
      cases frame with
      | component controls =>
        exact ⟨_, .rollBack _ _ _ _, { engines with control := controls }, .executed _, waiting⟩

theorem matched_of_advance {mode : StepMode} {executed : Nat} (engines : e.SameButTargets f)
    (waiting : List.Forall₂ Frame.SameButTargets frames others)
    (tick : Tick ⟨e, .advance mode executed, frames⟩ next) :
    Matched ⟨f, .advance mode executed, others⟩ next := by
  have instructions := engines.instruction?
  have resumes := engines.resume?
  cases tick with
  | defer locked =>
    rw [engines.locked] at locked
    exact ⟨_, .defer locked, engines.defer mode, .stepped _, waiting⟩
  | halt unlocked finished last =>
    rw [engines.locked] at unlocked
    rw [finished] at instructions
    rw [last] at resumes
    exact ⟨_, .halt unlocked (eq_none_of_rel instructions) (eq_none_of_rel resumes), engines,
      .stepped _, waiting⟩
  | resume unlocked finished resume =>
    rw [engines.locked] at unlocked
    rw [finished] at instructions
    rw [resume] at resumes
    obtain ⟨control, resume, controls⟩ := exists_of_rel resumes
    exact ⟨_, .resume unlocked (eq_none_of_rel instructions) resume,
      { engines with control := controls }, .advance _ _, waiting⟩
  | exceed unlocked next reached =>
    rw [engines.locked] at unlocked
    rw [next] at instructions
    rw [engines.config] at reached
    obtain ⟨counterpart, next, -⟩ := exists_of_rel instructions
    rw [engines.frames]
    exact ⟨_, .exceed unlocked next reached, engines, .stepped _, waiting⟩
  | execute begins simple ran =>
    obtain ⟨counterpart, begins, instructions⟩ := engines.begins begins
    have called := engines.calledAction? instructions
    rw [simple] at called
    rw [← calledAction?_record] at simple
    obtain ⟨last, ran, after⟩ := (engines.record instructions).execute instructions simple ran
    rw [engines.position]
    exact ⟨_, .execute begins (eq_none_of_rel called) ran, after, .executed _,
      .cons (.step _ _ _ instructions) waiting⟩
  | enter begins calls =>
    obtain ⟨counterpart, begins, instructions⟩ := engines.begins begins
    have called := engines.calledAction? instructions
    rw [calls] at called
    obtain ⟨onward, calls, actions⟩ := exists_of_rel called
    rw [engines.position]
    exact ⟨_, .enter begins calls, (engines.record instructions).moveOn, .act actions,
      .cons (.component engines.control) (.cons (.step _ _ _ instructions) waiting)⟩

theorem matched_of_executed {result : Except Failure Pacing} (engines : e.SameButTargets f)
    (waiting : List.Forall₂ Frame.SameButTargets frames others)
    (tick : Tick ⟨e, .executed result, frames⟩ next) :
    Matched ⟨f, .executed result, others⟩ next := by
  rcases waiting with _ | ⟨frame, waiting⟩
  · cases tick
  cases tick with
  | fail =>
    cases frame with
    | step _ _ _ instructions =>
      rw [engines.contextOf instructions]
      exact ⟨_, .fail _ _ _ _ _ _ _, engines, .stepped _, waiting⟩
  | stop =>
    cases frame
    exact ⟨_, .stop _ _ _ _ _ _, engines, .stepped _, waiting⟩
  | pause =>
    cases frame
    exact ⟨_, .pause _ _ _ _ _, engines, .stepped _, waiting⟩
  | goOn =>
    cases frame
    exact ⟨_, .goOn _ _ _ _ _, engines, .advance _ _, waiting⟩

theorem matched_of_stepped {result : Except Failure StepOutcome} (engines : e.SameButTargets f)
    (waiting : List.Forall₂ Frame.SameButTargets frames others)
    (tick : Tick ⟨e, .stepped result, frames⟩ next) :
    Matched ⟨f, .stepped result, others⟩ next := by
  rcases waiting with _ | ⟨frame, waiting⟩
  · cases tick
  cases tick with
  | runOn runsOn =>
    cases frame
    exact ⟨_, .runOn runsOn, engines, .advance _ _, .cons .run waiting⟩
  | runOver stops =>
    cases frame
    exact ⟨_, .runOver stops, engines, .stepped _, waiting⟩
  | answer =>
    cases frame with
    | request rest => exact ⟨_, .answer _ _ _ _, engines, .act (rest _), waiting⟩

theorem Situation.SameButTargets.matched {c d : Situation σ} (same : c.SameButTargets d)
    (tick : Tick c next) : Matched d next := by
  obtain ⟨e, activity, frames⟩ := c
  obtain ⟨f, other, others⟩ := d
  obtain ⟨engines, activities, waiting⟩ := same
  cases activities with
  | act actions => exact matched_of_act engines actions waiting tick
  | advance => exact matched_of_advance engines waiting tick
  | executed => exact matched_of_executed engines waiting tick
  | stepped => exact matched_of_stepped engines waiting tick

/-- What the one does the other does, one thing after the other, and it is noticed in the same
way. -/
theorem Situation.SameButTargets.leads {c d : Situation σ} {notices : List (Notice σ)}
    (same : c.SameButTargets d) (leads : Leads c notices next) :
    ∃ last, Leads d notices last ∧ next.SameButTargets last := by
  induction leads with
  | refl => exact ⟨d, .refl d, same⟩
  | tail _ tells tick ih =>
    obtain ⟨middle, leads, same⟩ := ih
    obtain ⟨last, onward, kept⟩ := same.matched tick
    obtain ⟨fuel, told⟩ := tells
    rw [same.notices?] at told
    exact ⟨last, leads.tail ⟨fuel, told⟩ onward, kept⟩

end

/-! ## What is shown -/

/-- All that is shown of an engine. -/
structure Appearance (σ : Type) where
  position : Nat
  callStack : List Nat
  /-- The programs under way, as a failure names them. -/
  frames : List String
  listing : String
  /-- The suspended programs, as they are listed, and where they go on. -/
  suspended : List (String × Nat)
  next : Option String
  locked : Bool
  pending : Option StepMode
  statics : NameTable Value
  world : World σ
  summary : String
  traceLines : List String

namespace Engine

def appearance (e : Engine σ) : Appearance σ where
  position := e.control.position
  callStack := e.control.callStack
  frames := e.control.frames
  listing := e.control.program.listing
  suspended := e.control.continuations.map fun suspended =>
    (suspended.program.listing, suspended.position)
  next := e.control.instruction?.map Instruction.text
  locked := e.control.locked
  pending := e.control.pending
  statics := e.statics
  world := e.world
  summary := e.view.summary
  traceLines := e.trace.lines

variable {e f : Engine σ}

namespace SameButTargets

variable (same : e.SameButTargets f)

include same

theorem listing : e.control.program.listing = f.control.program.listing := by
  have programs : e.control.program.withoutTargets = f.control.program.withoutTargets :=
    congrArg Control.program same.control
  rw [← Program.listing_withoutTargets, programs, Program.listing_withoutTargets]

theorem suspended : (e.control.continuations.map fun suspended =>
      (suspended.program.listing, suspended.position)) =
    f.control.continuations.map fun suspended =>
      (suspended.program.listing, suspended.position) := by
  have continuations : e.control.continuations.map Continuation.withoutTargets =
      f.control.continuations.map Continuation.withoutTargets :=
    congrArg Control.continuations same.control
  have shown := congrArg
    (List.map fun suspended => (suspended.program.listing, suspended.position)) continuations
  simpa only [List.map_map, Function.comp_def, Continuation.withoutTargets,
    Program.listing_withoutTargets] using shown

theorem next : e.control.instruction?.map Instruction.text =
    f.control.instruction?.map Instruction.text := by
  have instructions := same.instruction?
  generalize e.control.instruction? = instruction at instructions ⊢
  generalize f.control.instruction? = counterpart at instructions ⊢
  cases instructions with
  | none => rfl
  | @some instruction counterpart same =>
    have texts := congrArg Instruction.text same
    rw [Instruction.text_withoutTarget, Instruction.text_withoutTarget] at texts
    exact congrArg some texts

theorem summary : e.view.summary = f.view.summary := by
  rw [← View.summary_withoutTargets, same.view, View.summary_withoutTargets]

theorem lines : e.trace.lines = f.trace.lines := by
  rw [← Trace.lines_withoutTargets, same.trace, Trace.lines_withoutTargets]

/-- Targets are not shown. -/
theorem appearance : e.appearance = f.appearance := by
  simp only [Engine.appearance, same.position, same.callStack, same.frames, same.listing,
    same.suspended, same.next, same.locked, same.pending, same.statics, same.world, same.summary,
    same.lines]

end SameButTargets

end Engine

open Engine

section

variable {e f after : Engine σ} {session other : Action σ} (engines : e.SameButTargets f)
  (sessions : session.SameButTargets other)

include engines sessions

theorem leads_of_sameButTargets {notices : List (Notice σ)} {c : Situation σ}
    (leads : Leads ⟨e, .act session, []⟩ notices c) :
    ∃ d, Leads ⟨f, .act other, []⟩ notices d ∧ d.engine.appearance = c.engine.appearance := by
  have same : Situation.SameButTargets ⟨e, .act session, []⟩ ⟨f, .act other, []⟩ :=
    ⟨engines, .act sessions, .nil⟩
  obtain ⟨d, onward, kept⟩ := same.leads leads
  exact ⟨d, onward, kept.engines.appearance.symm⟩

theorem act_of_sameButTargets {fuel : Nat} {result : Except Failure Pacing}
    (acted : act fuel session e = some (result, after)) :
    ∃ fuel last, act fuel other f = some (result, last) ∧ last.appearance = after.appearance := by
  have same : Situation.SameButTargets ⟨e, .act session, []⟩ ⟨f, .act other, []⟩ :=
    ⟨engines, .act sessions, .nil⟩
  obtain ⟨notices, leads⟩ := exists_leads (ticks_iff_act.mpr ⟨fuel, acted⟩)
  obtain ⟨⟨last, activity, frames⟩, onward, engines, activities, waiting⟩ := same.leads leads
  cases waiting
  cases activities with
  | act actions =>
    cases actions
    obtain ⟨more, acts⟩ := ticks_iff_act.mp onward.ticks
    exact ⟨more, last, acts, engines.appearance.symm⟩

end

/-- The targets of conditional jumps are never consulted. Take two engines that differ in such
targets alone, and two sessions that ask the same of them, with programs that differ in such targets
alone; components may load such programs, too. Whatever the one session leads to, the other leads
to: the same calls, notifications and answers are noticed, in the same order, and the same is shown
of the engines. Where the one comes to a result, the other comes to the same. -/
theorem targets_never_consulted {e f : Engine σ} {session other : Action σ}
    (engines : e.SameButTargets f) (sessions : session.SameButTargets other) :
    (∀ notices appearance,
      (∃ c, Leads ⟨e, .act session, []⟩ notices c ∧ c.engine.appearance = appearance) ↔
        ∃ d, Leads ⟨f, .act other, []⟩ notices d ∧ d.engine.appearance = appearance) ∧
    ∀ result appearance,
      (∃ fuel after, act fuel session e = some (result, after) ∧ after.appearance = appearance) ↔
        ∃ fuel last, act fuel other f = some (result, last) ∧ last.appearance = appearance := by
  refine ⟨fun notices appearance => ⟨?_, ?_⟩, fun result appearance => ⟨?_, ?_⟩⟩
  · rintro ⟨c, leads, rfl⟩
    exact leads_of_sameButTargets engines sessions leads
  · rintro ⟨d, leads, rfl⟩
    exact leads_of_sameButTargets engines.symm sessions.symm leads
  · rintro ⟨fuel, after, acted, rfl⟩
    exact act_of_sameButTargets engines sessions acted
  · rintro ⟨fuel, last, acted, rfl⟩
    exact act_of_sameButTargets engines.symm sessions.symm acted

/-- Jumps over a return that has no call, and goes on with a detour. -/
def route (target : UInt64) : Program :=
  [.condGoto target (.literal (.int 2)) false, .ret, .callComponent "detour" .empty]

/-- Jumps to its own end. -/
def detour (target : UInt64) : Component Nat := fun _ =>
  .perform (.loadSub [.condGoto target (.literal (.int 1)) false]) (.done (.ok .proceed))

def crossroads (target : UInt64) : Engine Nat where
  config := { traceEnabled := true }
  world := { host := 0 }
  components := NameTable.empty.insert "detour" (detour target)

def travel (target : UInt64) : Action Nat :=
  .perform (.load (route target)) (.ask .run fun result => .done (result.map fun _ => .proceed))

theorem sameButTargets_crossroads (target counterpart : UInt64) :
    (crossroads target).SameButTargets (crossroads counterpart) where
  control := rfl
  trace := rfl
  config := rfl
  statics := rfl
  world := rfl
  evaluator := rfl
  functionNames := rfl
  functions _ := .none
  componentNames := rfl
  components name := by
    rw [crossroads, crossroads, NameTable.find?_insert, NameTable.find?_insert]
    split
    · exact .some fun _ => .loadSub rfl (.done _)
    · exact .none

theorem sameButTargets_travel (target counterpart : UInt64) :
    (travel target).SameButTargets (travel counterpart) :=
  .load rfl (.ask .run fun _ => .done _)

theorem targets_never_consulted_crossroads :
    (crossroads 9).SameButTargets (crossroads 0) ∧ (travel 9).SameButTargets (travel 0) ∧
    ∃ fuel last, act fuel (travel 0) (crossroads 0) = some (.ok .proceed, last) ∧
      last.appearance.position = 3 ∧ last.appearance.traceLines.length = 3 := by
  refine ⟨sameButTargets_crossroads 9 0, sameButTargets_travel 9 0, ?_⟩
  obtain ⟨fuel, last, acted, shown⟩ :=
    ((targets_never_consulted (sameButTargets_crossroads 9 0) (sameButTargets_travel 9 0)).2
      (.ok .proceed) _).mp ⟨20, _, rfl, rfl⟩
  exact ⟨fuel, last, acted, by rw [shown]; rfl, by rw [shown]; rfl⟩

end DialogueEngine
