import DialogueEngine.Proofs.Engine.Machine.Notices
import DialogueEngine.Proofs.Engine.Request
import Mathlib.Data.List.Forall2
import Mathlib.Data.Option.Basic

/-!
# Alike machines

Two engines that are alike in some way, with actions that are alike, go on in the same way and are
noticed in the same way. What a way of being alike has to keep for that is said for actions and for
instructions; that steps and runs keep it too, and whatever waits for them, follows once for all.
-/

namespace DialogueEngine

variable {σ : Type}

/-- Which engines are alike, and which actions. -/
structure Likeness (σ : Type) where
  engines : Engine σ → Engine σ → Prop
  actions : Action σ → Action σ → Prop

namespace Likeness

variable (alike : Likeness σ)

def Continuations (next other : Except Failure (Option StepOutcome) → Action σ) : Prop :=
  ∀ result, alike.actions (next result) (other result)

inductive Activities : Activity σ → Activity σ → Prop where
  | act {action other : Action σ} (actions : alike.actions action other) :
      Activities (.act action) (.act other)
  | advance (mode : StepMode) (executed : Nat) :
      Activities (.advance mode executed) (.advance mode executed)
  | executed (result : Except Failure Pacing) : Activities (.executed result) (.executed result)
  | stepped (result : Except Failure StepOutcome) : Activities (.stepped result) (.stepped result)

inductive Frames : Frame σ → Frame σ → Prop where
  | request {next other : Except Failure (Option StepOutcome) → Action σ}
      (continuations : alike.Continuations next other) : Frames (.request next) (.request other)
  | run : Frames .run .run
  | step (mode : StepMode) (executed : Nat) (instruction : Instruction) (position : Nat) :
      Frames (.step mode executed instruction position) (.step mode executed instruction position)
  | component (before : Control) : Frames (.component before) (.component before)

structure Situations (c d : Situation σ) : Prop where
  engines : alike.engines c.engine d.engine
  activities : alike.Activities c.activity d.activity
  frames : List.Forall₂ alike.Frames c.frames d.frames

/-- An action comes to another one, and its engine to another one, and is noticed so. -/
def Comes (f : Engine σ) (action : Action σ) (notices : List (Notice σ)) (last : Engine σ)
    (other : Action σ) : Prop :=
  ∀ frames, Leads ⟨f, .act action, frames⟩ notices ⟨last, .act other, frames⟩

namespace Comes

variable {f middle last : Engine σ} {action next other : Action σ} {notices : List (Notice σ)}

theorem refl (f : Engine σ) (action : Action σ) : Comes f action [] f action := fun _ => .refl _

theorem of_acts (fuel : Nat) (acts : f.Acts action next last)
    (told : f.actNotices? fuel action = some notices) : Comes f action notices last next :=
  fun _ => .single ⟨fuel, (Situation.notices?_act acts).trans told⟩ (.act acts)

/-- What is done first is not noticed. -/
theorem head (acts : f.Acts action next middle) (silent : f.actNotices? 0 action = some [])
    (comes : Comes middle next notices last other) : Comes f action notices last other :=
  fun frames => (of_acts 0 acts silent frames).trans (comes frames)

end Comes

/-- What an action or an instruction makes of alike engines is alike. One of two actions may do
more than the other, as long as that is not noticed. -/
structure Kept : Prop where
  control {e f : Engine σ} : alike.engines e f → f.control = e.control
  maxBurst {e f : Engine σ} : alike.engines e f → f.config.maxBurst = e.config.maxBurst
  steer {e f : Engine σ} : alike.engines e f → ∀ move : Control → Control,
    alike.engines (e.steer move) (f.steer move)
  record {e f : Engine σ} : alike.engines e f → ∀ instruction : Instruction,
    alike.engines (e.record instruction) (f.record instruction)
  called {e f : Engine σ} : alike.engines e f → ∀ instruction : Instruction,
    Option.Rel alike.actions (e.calledAction? instruction) (f.calledAction? instruction)
  notices {e f : Engine σ} {fuel : Nat} {instruction : Instruction} {notices : List (Notice σ)} :
    alike.engines e f → e.notices? fuel instruction = some notices →
      f.notices? fuel instruction = some notices
  execute {e f after : Engine σ} {fuel : Nat} {instruction : Instruction}
    {result : Except Failure Pacing} : alike.engines e f → e.calledAction? instruction = none →
      Engine.execute fuel instruction e = some (result, after) →
        ∃ last, Engine.execute fuel instruction f = some (result, last) ∧ alike.engines after last
  acts {e f after : Engine σ} {action other next : Action σ} {fuel : Nat}
    {notices : List (Notice σ)} : alike.engines e f → alike.actions action other →
      e.Acts action next after → e.actNotices? fuel action = some notices →
        ∃ last onward, Comes f other notices last onward ∧ alike.engines after last ∧
          alike.actions next onward
  done {e f : Engine σ} {result : Except Failure Pacing} {other : Action σ} :
    alike.engines e f → alike.actions (.done result) other →
      ∃ last, Comes f other [] last (.done result) ∧ alike.engines e last
  ask {e f : Engine σ} {request : Request} {other : Action σ}
    {next : Except Failure (Option StepOutcome) → Action σ} :
    alike.engines e f → alike.actions (.ask request next) other →
      ∃ last onward, Comes f other [] last (.ask request onward) ∧ alike.engines e last ∧
        alike.Continuations next onward

variable {alike} {c d next : Situation σ} {notices : List (Notice σ)}

/-- What alike situations lead to. -/
abbrev Matched (alike : Likeness σ) (d next : Situation σ) (notices : List (Notice σ)) : Prop :=
  ∃ last, Leads d notices last ∧ alike.Situations next last

theorem Kept.reachedLimit?_eq {e f : Engine σ} (kept : alike.Kept) (engines : alike.engines e f)
    (executed : Nat) : f.config.reachedLimit? executed = e.config.reachedLimit? executed := by
  rw [Config.reachedLimit?, Config.reachedLimit?, kept.maxBurst engines]

theorem Kept.begins {e f : Engine σ} (kept : alike.Kept) (engines : alike.engines e f)
    {executed : Nat} {instruction : Instruction} (begins : e.Begins executed instruction) :
    f.Begins executed instruction := by
  obtain ⟨unlocked, next, within⟩ := begins
  rw [← kept.control engines] at unlocked next
  rw [← kept.reachedLimit?_eq engines] at within
  exact ⟨unlocked, next, within⟩

section Ticks

variable {e f after : Engine σ} {frames others : List (Frame σ)}

theorem Kept.matched_of_acts (kept : alike.Kept) {action other onward : Action σ}
    (engines : alike.engines e f) (actions : alike.actions action other)
    (waiting : List.Forall₂ alike.Frames frames others)
    (tells : Situation.Tells ⟨e, .act action, frames⟩ notices)
    (acts : e.Acts action onward after) :
    alike.Matched ⟨f, .act other, others⟩ ⟨after, .act onward, frames⟩ notices := by
  obtain ⟨fuel, told⟩ := tells
  rw [Situation.notices?_act acts] at told
  obtain ⟨last, next, comes, engines, actions⟩ := kept.acts engines actions acts told
  exact ⟨_, comes others, engines, .act actions, waiting⟩

/-- A request starts the same of alike engines. -/
theorem Kept.matched_of_ask (kept : alike.Kept) {request : Request} {other : Action σ}
    {onward : Except Failure (Option StepOutcome) → Action σ} (engines : alike.engines e f)
    (actions : alike.actions (.ask request onward) other)
    (waiting : List.Forall₂ alike.Frames frames others)
    (tells : Situation.Tells ⟨e, .act (.ask request onward), frames⟩ notices)
    (tick : Tick ⟨e, .act (.ask request onward), frames⟩ next) :
    alike.Matched ⟨f, .act other, others⟩ next notices := by
  obtain ⟨last, followup, comes, engines, continuations⟩ := kept.ask engines actions
  have control := kept.control engines
  have frame := Frames.request continuations
  obtain ⟨fuel, told⟩ := tells
  have same : last.actNotices? fuel (.ask request followup) =
      e.actNotices? fuel (.ask request onward) := by
    cases request <;> simp only [Engine.actNotices?, control]
  have onward (middle : Situation σ) (tick : Tick ⟨last, .act (.ask request followup), others⟩
      middle) : Leads ⟨f, .act other, others⟩ notices middle :=
    .tail (comes others) ⟨fuel, same.trans told⟩ tick
  cases tick with
  | act acts => cases acts
  | askStep =>
    exact ⟨_, onward _ (.askStep _ _ _), engines, .advance _ _, .cons frame waiting⟩
  | askSingle =>
    exact ⟨_, onward _ (.askSingle _ _ _), engines, .advance _ _, .cons frame waiting⟩
  | askRun =>
    exact ⟨_, onward _ (.askRun _ _ _), engines, .advance _ _, .cons .run (.cons frame waiting)⟩
  | release _ _ idle =>
    rw [← control] at idle
    exact ⟨_, onward _ (.release _ _ idle), kept.steer engines _, .act (continuations _), waiting⟩
  | makeUp _ _ pending =>
    rw [← control] at pending
    exact ⟨_, onward _ (.makeUp _ _ pending), kept.steer engines _, .advance _ _,
      .cons frame waiting⟩

/-- A component is over on alike engines at once, and put back alike if it fails. -/
theorem Kept.matched_of_done (kept : alike.Kept) {result : Except Failure Pacing}
    {other : Action σ} (engines : alike.engines e f) (actions : alike.actions (.done result) other)
    (waiting : List.Forall₂ alike.Frames frames others)
    (tells : Situation.Tells ⟨e, .act (.done result), frames⟩ notices)
    (tick : Tick ⟨e, .act (.done result), frames⟩ next) :
    alike.Matched ⟨f, .act other, others⟩ next notices := by
  obtain ⟨last, comes, engines⟩ := kept.done engines actions
  obtain ⟨fuel, told⟩ := tells
  cases tick with
  | act acts => cases acts
  | leave e pacing before frames =>
    cases told
    cases waiting with
    | cons frame waiting =>
      cases frame
      exact ⟨_, .tail (comes _) ⟨fuel, rfl⟩ (.leave _ _ _ _), engines, .executed _, waiting⟩
  | rollBack e failure before frames =>
    cases told
    cases waiting with
    | cons frame waiting =>
      cases frame
      exact ⟨_, .tail (comes _) ⟨fuel, rfl⟩ (.rollBack _ _ _ _),
        kept.steer engines fun _ => before, .executed _, waiting⟩

theorem Kept.begun?_eq (kept : alike.Kept) (engines : alike.engines e f) (executed : Nat) :
    f.begun? executed = e.begun? executed := by
  rw [Engine.begun?, Engine.begun?, kept.control engines, kept.reachedLimit?_eq engines]

theorem Kept.notices?_advance (kept : alike.Kept) {fuel executed : Nat} {mode : StepMode}
    (engines : alike.engines e f)
    (told : Situation.notices? fuel ⟨e, .advance mode executed, frames⟩ = some notices) :
    Situation.notices? fuel ⟨f, .advance mode executed, others⟩ = some notices := by
  simp only [Situation.notices?, kept.begun?_eq engines] at told ⊢
  split at told
  · exact kept.notices (kept.record engines _) told
  · exact told

/-- A step goes on in the same way on alike engines. -/
theorem Kept.matched_of_advance (kept : alike.Kept) {mode : StepMode} {executed : Nat}
    (engines : alike.engines e f) (waiting : List.Forall₂ alike.Frames frames others)
    (tells : Situation.Tells ⟨e, .advance mode executed, frames⟩ notices)
    (tick : Tick ⟨e, .advance mode executed, frames⟩ next) :
    alike.Matched ⟨f, .advance mode executed, others⟩ next notices := by
  have control := kept.control engines
  obtain ⟨fuel, told⟩ := tells
  have onward (middle : Situation σ) (tick : Tick ⟨f, .advance mode executed, others⟩ middle) :
      Leads ⟨f, .advance mode executed, others⟩ notices middle :=
    .single ⟨fuel, kept.notices?_advance engines told⟩ tick
  cases tick with
  | defer locked =>
    rw [← control] at locked
    exact ⟨_, onward _ (.defer locked), kept.steer engines (·.defer mode), .stepped _, waiting⟩
  | halt unlocked finished last =>
    rw [← control] at unlocked finished last
    exact ⟨_, onward _ (.halt unlocked finished last), engines, .stepped _, waiting⟩
  | @resume _ after _ _ _ unlocked finished resume =>
    rw [← control] at unlocked finished resume
    exact ⟨_, onward _ (.resume unlocked finished resume), kept.steer engines fun _ => after,
      .advance _ _, waiting⟩
  | exceed unlocked next reached =>
    rw [← control] at unlocked next
    rw [← kept.reachedLimit?_eq engines] at reached
    have exceeds := onward _ (.exceed unlocked next reached)
    rw [control] at exceeds
    exact ⟨_, exceeds, engines, .stepped _, waiting⟩
  | @execute _ _ instruction _ _ _ _ _ begins simple ran =>
    have recorded := kept.record engines instruction
    have plain : f.calledAction? instruction = none := by
      have called := kept.called engines instruction
      rw [simple] at called
      generalize f.calledAction? instruction = found at called ⊢
      cases called
      rfl
    rw [← Engine.calledAction?_record] at simple
    obtain ⟨last, ran, after⟩ := kept.execute recorded simple ran
    have executes := onward _ (.execute (kept.begins engines begins) plain ran)
    rw [control] at executes
    exact ⟨_, executes, after, .executed _, .cons (.step _ _ _ _) waiting⟩
  | @enter _ instruction _ _ _ _ begins calls =>
    have called := kept.called engines instruction
    rw [calls] at called
    generalize other : f.calledAction? instruction = found at called
    cases called with
    | some actions =>
      have enters := onward _ (.enter (kept.begins engines begins) other)
      rw [control] at enters
      exact ⟨_, enters, kept.steer (kept.record engines instruction) _, .act actions,
        .cons (.component _) (.cons (.step _ _ _ _) waiting)⟩

/-- What has come of an instruction goes to the step that waits for it. -/
theorem Kept.matched_of_executed (kept : alike.Kept) {result : Except Failure Pacing}
    (engines : alike.engines e f) (waiting : List.Forall₂ alike.Frames frames others)
    (tells : Situation.Tells ⟨e, .executed result, frames⟩ notices)
    (tick : Tick ⟨e, .executed result, frames⟩ next) :
    alike.Matched ⟨f, .executed result, others⟩ next notices := by
  have control := kept.control engines
  obtain ⟨fuel, told⟩ := tells
  cases told
  have onward (middle : Situation σ) (tick : Tick ⟨f, .executed result, others⟩ middle) :
      Leads ⟨f, .executed result, others⟩ [] middle := .single ⟨fuel, rfl⟩ tick
  rcases waiting with _ | ⟨frame, waiting⟩
  · cases tick
  cases tick with
  | fail =>
    cases frame
    have fails := onward _ (.fail _ _ _ _ _ _ _)
    rw [control] at fails
    exact ⟨_, fails, engines, .stepped _, waiting⟩
  | stop =>
    cases frame
    exact ⟨_, onward _ (.stop _ _ _ _ _ _), engines, .stepped _, waiting⟩
  | pause =>
    cases frame
    exact ⟨_, onward _ (.pause _ _ _ _ _), engines, .stepped _, waiting⟩
  | goOn =>
    cases frame
    exact ⟨_, onward _ (.goOn _ _ _ _ _), engines, .advance _ _, waiting⟩

/-- What has come of a step goes to the run or to the request that waits for it. -/
theorem Kept.matched_of_stepped {result : Except Failure StepOutcome}
    (engines : alike.engines e f) (waiting : List.Forall₂ alike.Frames frames others)
    (tells : Situation.Tells ⟨e, .stepped result, frames⟩ notices)
    (tick : Tick ⟨e, .stepped result, frames⟩ next) :
    alike.Matched ⟨f, .stepped result, others⟩ next notices := by
  obtain ⟨fuel, told⟩ := tells
  rcases waiting with _ | ⟨frame, waiting⟩
  · cases tick
  cases tick with
  | runOn runsOn =>
    cases told
    cases frame
    exact ⟨_, .single ⟨fuel, rfl⟩ (.runOn runsOn), engines, .advance _ _, .cons .run waiting⟩
  | runOver stops =>
    cases told
    cases frame
    exact ⟨_, .single ⟨fuel, rfl⟩ (.runOver stops), engines, .stepped _, waiting⟩
  | answer =>
    cases told
    cases frame with
    | request continuations =>
      exact ⟨_, .single ⟨fuel, rfl⟩ (.answer _ _ _ _), engines, .act (continuations _), waiting⟩

end Ticks

/-- Each tick is matched, and noticed in the same way. -/
theorem Kept.matched (kept : alike.Kept) (situations : alike.Situations c d)
    (tells : c.Tells notices) (tick : Tick c next) : alike.Matched d next notices := by
  obtain ⟨e, activity, frames⟩ := c
  obtain ⟨f, other, others⟩ := d
  obtain ⟨engines, activities, waiting⟩ := situations
  cases activities with
  | @act action other actions =>
    cases action with
    | done => exact kept.matched_of_done engines actions waiting tells tick
    | ask => exact kept.matched_of_ask engines actions waiting tells tick
    | _ =>
      cases tick with
      | act acts => exact kept.matched_of_acts engines actions waiting tells acts
  | advance => exact kept.matched_of_advance engines waiting tells tick
  | executed => exact kept.matched_of_executed engines waiting tells tick
  | stepped => exact matched_of_stepped engines waiting tells tick

/-- What alike situations lead to is alike, and noticed in the same way. -/
theorem Kept.leads (kept : alike.Kept) (situations : alike.Situations c d)
    (leads : Leads c notices next) : alike.Matched d next notices := by
  induction leads with
  | refl => exact ⟨d, .refl d, situations⟩
  | tail _ tells tick ih =>
    obtain ⟨middle, leads, situations⟩ := ih
    obtain ⟨last, onward, situations⟩ := kept.matched situations tells tick
    exact ⟨last, leads.trans onward, situations⟩

/-- Where the one comes to an end, the other does. -/
theorem Kept.leads_done (kept : alike.Kept) {after : Engine σ} {result : Except Failure Pacing}
    (situations : alike.Situations c d) (leads : Leads c notices ⟨after, .act (.done result), []⟩) :
    ∃ last, Leads d notices ⟨last, .act (.done result), []⟩ ∧ alike.engines after last := by
  obtain ⟨⟨f, activity, frames⟩, onward, engines, activities, waiting⟩ :=
    kept.leads situations leads
  cases activities with
  | act actions =>
    cases waiting
    obtain ⟨last, comes, engines⟩ := kept.done engines actions
    have whole := onward.trans (comes [])
    rw [List.append_nil] at whole
    exact ⟨last, whole, engines⟩

/-! ## Requests -/

/-- Goes on with whether a request has had a certain result. -/
def expecting (result other : Except Failure (Option StepOutcome)) : Action σ :=
  .done (.ok (if other = result then .proceed else .pause))

theorem ticks_expecting_iff {e after : Engine σ} {request : Request}
    {result : Except Failure (Option StepOutcome)} :
    Ticks ⟨e, .act (.ask request (expecting result)), []⟩ ⟨after, .act (.done (.ok .proceed)), []⟩ ↔
      e.Answers request result after := by
  rw [Engine.ticks_iff_act]
  constructor
  · rintro ⟨_ | fuel, acted⟩
    · simp [Engine.act] at acted
    rw [Engine.act] at acted
    cases answered : e.answer fuel request with
    | none => simp [answered] at acted
    | some pair =>
      obtain ⟨outcome, middle⟩ := pair
      simp only [answered] at acted
      cases fuel with
      | zero => simp [Engine.act] at acted
      | succ fuel =>
        rw [expecting, Engine.act] at acted
        by_cases same : outcome = result
        · rw [if_pos same] at acted
          cases acted
          exact ⟨fuel + 1, same ▸ answered⟩
        · rw [if_neg same] at acted
          cases acted
  · rintro ⟨_ | fuel, answered⟩
    · simp [Engine.answer] at answered
    refine ⟨fuel + 2, ?_⟩
    rw [Engine.act]
    simp only [answered]
    rw [expecting, Engine.act, if_pos rfl]

/-- A request that the one answers is answered by the other in the same way. -/
theorem Kept.answers (kept : alike.Kept) {e f after : Engine σ} {request : Request}
    {result : Except Failure (Option StepOutcome)} (engines : alike.engines e f)
    (asks : alike.actions (.ask request (expecting result)) (.ask request (expecting result)))
    (answers : e.Answers request result after) :
    ∃ last, f.Answers request result last ∧ alike.engines after last := by
  obtain ⟨notices, leads⟩ := exists_leads (ticks_expecting_iff.mpr answers)
  have situations : alike.Situations ⟨e, .act (.ask request (expecting result)), []⟩
      ⟨f, .act (.ask request (expecting result)), []⟩ := ⟨engines, .act asks, .nil⟩
  obtain ⟨last, onward, engines⟩ := kept.leads_done situations leads
  exact ⟨last, ticks_expecting_iff.mp onward.ticks, engines⟩

end Likeness

end DialogueEngine
