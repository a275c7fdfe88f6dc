import DialogueEngine.Proofs.Console.Staging

/-!
# What is written on the way

The lines that `say` and `log` write are those of the calls that are noticed. Along a run they are
added to the transcript, each once and in the order of the calls; at most the last one of them is
still to be written.
-/

namespace DialogueEngine

variable {σ τ : Type}

/-- The line that a call of `say` or `log` writes. -/
def Notice.line? : Notice σ → Option String
  | .component name args =>
      if name = "say" ∨ name = "log" then (args.find? "text").bind Value.asString? else none
  | .concluded _ | .function .. | .reactive _ | .evaluated _ | .answered _ => none

/-- The lines that are written, in the order of the calls. -/
def spoken (notices : List (Notice σ)) : List String := notices.filterMap Notice.line?

@[simp]
theorem spoken_nil : spoken ([] : List (Notice σ)) = [] := rfl

@[simp]
theorem spoken_append (notices more : List (Notice σ)) :
    spoken (notices ++ more) = spoken notices ++ spoken more := List.filterMap_append

theorem spoken_chronicle (c : Chronicle σ) : spoken c.notices = [] := by
  rw [spoken, Chronicle.notices, List.filterMap_map]
  exact List.filterMap_eq_nil_iff.mpr fun _ _ => rfl

/-! ## Evaluation writes nothing -/

namespace Engine

section Evaluation

variable (e : Engine σ)

mutual

theorem spoken_recite : ∀ (fuel : Nat) (operand : Operand) (w : World σ) {recital : Recital σ},
    e.recite fuel operand w = some recital → spoken recital.notices = []
  | 0, _, _, _, told => by simp [recite] at told
  | fuel + 1, operand, w, recital, told => by
    cases operand with
    | literal value =>
      cases told
      rfl
    | call name args =>
      rw [recite] at told
      cases found : e.functions.find? name with
      | none =>
        simp only [found] at told
        cases told
        rfl
      | some function =>
        simp only [found] at told
        obtain ⟨last, computed, rfl⟩ := Option.map_eq_some_iff.mp told
        have silent := spoken_reciteComputation fuel (function args) w computed
        exact silent

theorem spoken_reciteComputation : ∀ (fuel : Nat) (computation : Computation σ) (w : World σ)
    {recital : Recital σ},
    e.reciteComputation fuel computation w = some recital → spoken recital.notices = []
  | 0, _, _, _, told => by simp [reciteComputation] at told
  | fuel + 1, computation, w, recital, told => by
    cases computation with
    | done result =>
      cases told
      rfl
    | evaluate operand next =>
      rw [reciteComputation] at told
      cases evaluated : e.recite fuel operand w with
      | none => simp [evaluated] at told
      | some first =>
        simp only [evaluated] at told
        obtain ⟨last, computed, rfl⟩ := Option.map_eq_some_iff.mp told
        simp [Recital.after, spoken_recite fuel operand w evaluated,
          spoken_reciteComputation fuel _ _ computed]
    | react reaction next =>
      rw [reciteComputation] at told
      cases followed : reaction.follow fuel ⟨w, []⟩ with
      | none => simp [followed] at told
      | some c =>
        simp only [followed] at told
        obtain ⟨last, computed, rfl⟩ := Option.map_eq_some_iff.mp told
        simp [Recital.after, spoken_chronicle, spoken_reciteComputation fuel _ _ computed]
    | consult next | observe next =>
      rw [reciteComputation] at told
      exact spoken_reciteComputation fuel _ w told

end

theorem spoken_reciteOperand {fuel : Nat} {operand : Operand} {embedded : Bool}
    {recital : Recital σ} (told : e.reciteOperand fuel operand embedded = some recital) :
    spoken recital.notices = [] := by
  rw [reciteOperand] at told
  split at told
  · cases told
    rfl
  · exact e.spoken_recite fuel operand e.world told

end Evaluation

variable {e after : Engine σ} {fuel : Nat} {notices : List (Notice σ)}

/-- An instruction that calls no component writes nothing. -/
theorem spoken_notices {instruction : Instruction} (simple : e.calledAction? instruction = none)
    (told : e.notices? fuel instruction = some notices) : spoken notices = [] := by
  cases instruction with
  | setStatic _ operand embedded | condGoto _ operand embedded =>
    obtain ⟨recital, recited, rfl⟩ := Option.map_eq_some_iff.mp told
    exact e.spoken_reciteOperand recited
  | setReactive name operand embedded =>
    rw [notices?] at told
    split at told
    · cases recited : e.reciteOperand fuel operand embedded with
      | none => simp [recited] at told
      | some recital =>
        have silent := e.spoken_reciteOperand recited
        obtain ⟨_ | value, world, first⟩ := recital
        · simp only [recited] at told
          cases told
          exact silent
        · simp only [recited] at told
          obtain ⟨c, -, rfl⟩ := Option.map_eq_some_iff.mp told
          rw [spoken_append, spoken_chronicle, silent, List.append_nil]
    · cases told
      rfl
  | callComponent name args =>
    have unknown : e.components.find? name = none := Option.map_eq_none_iff.mp simple
    rw [notices?, NameTable.contains, unknown] at told
    cases told
    rfl
  | goto | call | ret =>
    cases told
    rfl

theorem spoken_actNotices {action : Action σ} (told : e.actNotices? fuel action = some notices) :
    spoken notices = [] := by
  cases action with
  | react reaction next =>
    obtain ⟨c, -, rfl⟩ := Option.map_eq_some_iff.mp told
    exact spoken_chronicle c
  | evaluate operand embedded next =>
    obtain ⟨recital, recited, rfl⟩ := Option.map_eq_some_iff.mp told
    rw [spoken_append, e.spoken_reciteOperand recited]
    rfl
  | ask request next =>
    cases request with
    | unlock =>
      cases told
      split <;> rfl
    | _ =>
      cases told
      rfl
  | _ =>
    cases told
    rfl

end Engine

open Stage

/-- What is under way is discreet, or about to write some lines. -/
inductive Activity.Voices : Activity (Stage τ) → List String → Prop where
  | aside {action : Action (Stage τ)} (aside : action.Aside) : Voices (.act action) []
  | speech (text : String) (pacing : Pacing) : Voices (.act (speech text pacing)) [text]
  | advance (mode : StepMode) (executed : Nat) : Voices (.advance mode executed) []
  | executed (result : Except Failure Pacing) : Voices (.executed result) []
  | stepped (result : Except Failure StepOutcome) : Voices (.stepped result) []

/-- A component that is called is about to write what is noticed of the call. -/
theorem Engine.Staged.voices {e : Engine (Stage τ)} {fuel : Nat} {instruction : Instruction}
    {action : Action (Stage τ)} {notices : List (Notice (Stage τ))} (staged : e.Staged)
    (calls : e.calledAction? instruction = some action)
    (told : e.notices? fuel instruction = some notices) :
    (Activity.act action).Voices (spoken notices) := by
  cases instruction with
  | callComponent name args =>
    obtain ⟨component, found, rfl⟩ := Option.map_eq_some_iff.mp calls
    have noticed : notices = [.component name args] := by
      rw [notices?, NameTable.contains, found] at told
      cases told
      rfl
    have voices (pacing : Pacing) (written : name = "say" ∨ name = "log") :
        (Activity.act (writer name pacing args : Action (Stage τ))).Voices (spoken notices) := by
      rw [noticed, spoken, List.filterMap_cons, Notice.line?, if_pos written, writer_eq]
      cases (args.find? "text").bind Value.asString? with
      | none => exact .aside trivial
      | some text => exact .speech text pacing
    by_cases speaks : name = "say"
    · subst speaks
      rw [staged.say] at found
      cases found
      exact voices .pause (.inl rfl)
    by_cases logs : name = "log"
    · subst logs
      rw [staged.log] at found
      cases found
      exact voices .proceed (.inr rfl)
    · have silent : spoken notices = [] := by
        simp [noticed, spoken, Notice.line?, speaks, logs]
      rw [silent]
      exact .aside (staged.components name args ⟨speaks, logs⟩ component found)
  | _ => cases calls

/-- Those who wait for an answer go on discreetly. -/
def Frame.Aside : Frame (Stage τ) → Prop
  | .request next => ∀ result, (next result).Aside
  | .run | .step .. | .component _ => True

/-- Some lines have been written to an empty transcript, or are about to be. -/
structure Situation.Spoken (c : Situation (Stage τ)) (lines : List String) : Prop where
  staged : c.engine.Staged
  frames : ∀ frame ∈ c.frames, frame.Aside
  written : ∃ pending, c.activity.Voices pending ∧ c.engine.lines ++ pending = lines

namespace Situation.Spoken

variable {c next : Situation (Stage τ)} {lines : List String} {notices : List (Notice (Stage τ))}

/-- Nothing was about to be written, and nothing is. -/
theorem of_silence {e after : Engine (Stage τ)} {activity : Activity (Stage τ)}
    {frames : List (Frame (Stage τ))} (staged : after.Staged)
    (waiting : ∀ frame ∈ frames, frame.Aside) (voices : activity.Voices [])
    (same : after.lines = e.lines) (silent : spoken notices = []) :
    Spoken ⟨after, activity, frames⟩ (e.lines ++ [] ++ spoken notices) :=
  ⟨staged, waiting, [], voices, by rw [silent, same, List.append_nil, List.append_nil]⟩

/-- What is noticed of a tick is written, or about to be. -/
theorem tick (so : c.Spoken lines) (tells : c.Tells notices) (tick : Tick c next) :
    next.Spoken (lines ++ spoken notices) := by
  obtain ⟨staged, waiting, pending, voices, rfl⟩ := so
  obtain ⟨fuel, told⟩ := tells
  cases tick with
  | act acts =>
    rw [notices?_act acts] at told
    rw [Engine.spoken_actNotices told, List.append_nil]
    cases voices with
    | aside aside =>
      obtain ⟨still, aside, same, -⟩ := staged.acts aside acts
      exact ⟨still, waiting, [], .aside aside, congrArg (· ++ []) same⟩
    | speech text pacing =>
      obtain ⟨rfl, still, same, -⟩ := staged.acts_speech acts
      exact ⟨still, waiting, [], .aside trivial, (List.append_nil _).trans same⟩
  | askStep | askSingle =>
    cases told
    cases voices with
    | aside aside =>
      exact of_silence staged (List.forall_mem_cons.mpr ⟨aside.2, waiting⟩) (.advance _ _) rfl rfl
  | askRun =>
    cases told
    cases voices with
    | aside aside =>
      refine of_silence staged (List.forall_mem_cons.mpr ⟨trivial, ?_⟩) (.advance _ _) rfl rfl
      exact List.forall_mem_cons.mpr ⟨aside.2, waiting⟩
  | @release e next _ idle =>
    have told : e.actNotices? fuel (.ask .unlock next) = some notices := told
    have silent := Engine.spoken_actNotices told
    cases voices with
    | aside aside =>
      exact of_silence (staged.steer _) waiting (.aside (aside.2 _)) rfl silent
  | @makeUp e _ next _ pending =>
    have told : e.actNotices? fuel (.ask .unlock next) = some notices := told
    have silent := Engine.spoken_actNotices told
    cases voices with
    | aside aside =>
      exact of_silence (staged.steer _) (List.forall_mem_cons.mpr ⟨aside.2, waiting⟩)
        (.advance _ _) rfl silent
  | defer locked =>
    rw [notices?_not_begun (by simp [Engine.begun?, locked])] at told
    cases told
    cases voices
    exact of_silence (staged.steer _) waiting (.stepped _) rfl rfl
  | halt _ finished =>
    rw [notices?_not_begun (by simp [Engine.begun?, finished])] at told
    cases told
    cases voices
    exact of_silence staged waiting (.stepped _) rfl rfl
  | @resume _ control _ _ _ _ finished =>
    rw [notices?_not_begun (by simp [Engine.begun?, finished])] at told
    cases told
    cases voices
    exact of_silence (staged.steer fun _ => control) waiting (.advance _ _) rfl rfl
  | exceed _ _ reached =>
    rw [notices?_not_begun (by simp [Engine.begun?, reached])] at told
    cases told
    cases voices
    exact of_silence staged waiting (.stepped _) rfl rfl
  | @execute e _ instruction _ _ _ _ _ begins simple ran =>
    rw [notices?_begun begins] at told
    rw [← Engine.calledAction?_record] at simple
    obtain ⟨still, same, -⟩ := (staged.record _).execute simple ran
    have same := same.trans (e.lines_record instruction)
    cases voices
    exact of_silence still (List.forall_mem_cons.mpr ⟨trivial, waiting⟩) (.executed _) same
      (Engine.spoken_notices simple told)
  | @enter e instruction _ _ _ _ begins calls =>
    rw [notices?_begun begins] at told
    rw [← Engine.calledAction?_record] at calls
    have same := e.lines_record instruction
    cases voices
    refine ⟨(staged.record _).steer _, ?_, _, (staged.record _).voices calls told, ?_⟩
    · exact List.forall_mem_cons.mpr ⟨trivial, List.forall_mem_cons.mpr ⟨trivial, waiting⟩⟩
    · rw [List.append_nil, ← same]
      rfl
  | leave =>
    cases told
    cases voices
    exact of_silence staged (List.forall_mem_cons.mp waiting).2 (.executed _) rfl rfl
  | rollBack _ _ before =>
    cases told
    cases voices
    exact of_silence (staged.steer fun _ => before) (List.forall_mem_cons.mp waiting).2
      (.executed _) rfl rfl
  | fail | stop | pause =>
    cases told
    cases voices
    exact of_silence staged (List.forall_mem_cons.mp waiting).2 (.stepped _) rfl rfl
  | goOn =>
    cases told
    cases voices
    exact of_silence staged (List.forall_mem_cons.mp waiting).2 (.advance _ _) rfl rfl
  | runOn =>
    cases told
    cases voices
    exact of_silence staged waiting (.advance _ _) rfl rfl
  | runOver =>
    cases told
    cases voices
    exact of_silence staged (List.forall_mem_cons.mp waiting).2 (.stepped _) rfl rfl
  | answer =>
    cases told
    cases voices
    obtain ⟨asker, waiting⟩ := List.forall_mem_cons.mp waiting
    exact of_silence staged waiting (.aside (asker _)) rfl rfl

/-- What is noticed of a run is written, or about to be. -/
theorem leads (so : c.Spoken lines) (leads : Leads c notices next) :
    next.Spoken (lines ++ spoken notices) := by
  induction leads with
  | refl =>
    rw [spoken_nil, List.append_nil]
    exact so
  | tail _ tells ticks ih =>
    rw [spoken_append, ← List.append_assoc]
    exact ih.tick tells ticks

end Situation.Spoken

end DialogueEngine
