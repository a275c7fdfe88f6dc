import DialogueEngine.Console.Basic
import DialogueEngine.Proofs.Engine.Conduct
import DialogueEngine.Proofs.Engine.Machine.Likeness
import DialogueEngine.Proofs.Engine.Resemblance

/-!
# Engines on a stage

An engine whose only output are the lines that the components `say` and `log` of the console write.
All other host code leaves the transcript alone: it neither reads nor changes it. What has been
written before is then nothing that the execution depends on.
-/

namespace DialogueEngine

variable {τ : Type}

namespace Stage

def withTranscript (transcript : Transcript) (stage : Stage τ) : Stage τ :=
  { stage with transcript }

/-- What a component does that writes a line. -/
def speech (text : String) (pacing : Pacing) : Action (Stage τ) :=
  .react (.modify (·.write text) .done) (.done (.ok pacing))

/-- The calls of other components than those that write. -/
def others : Set (String × ComponentArgs) := {call | call.1 ≠ "say" ∧ call.1 ≠ "log"}

end Stage

open Stage

/-- A reaction takes no notice of what is in the transcript, and leaves it there. -/
def Reaction.Discreet (reaction : Reaction (Stage τ)) : Prop :=
  ∀ transcript, reaction.Overlooks (withTranscript transcript)

def HostFunction.Discreet (function : HostFunction (Stage τ)) : Prop :=
  ∀ transcript, function.Overlooks (withTranscript transcript) Eq

/-- An operation leaves `say` and `log` what they are, and brings no function that knows of the
transcript. -/
def Operation.Discreet : Operation (Stage τ) → Prop
  | .register name component =>
      (name = "say" → component = writer "say" .pause) ∧
        (name = "log" → component = writer "log" .proceed)
  | .registerFunction _ function => HostFunction.Discreet function
  | .load _ | .loadSub _ | .lock | .reset | .clearTrace | .setStatic .. | .declare ..
  | .installEvaluator _ => True

/-- An act neither reads nor changes the transcript, as far as it is not about what comes next. -/
def Action.Discreet : Action (Stage τ) → Prop
  | .perform operation _ => operation.Discreet
  | .react reaction _ => reaction.Discreet
  | .consult next => ∀ transcript stage, next (withTranscript transcript stage) = next stage
  | .done _ | .observe _ | .settings _ | .records _ | .evaluate .. | .ask .. => True

/-- All that an action does is discreet, and all that components do that it registers. -/
abbrev Action.Aside (action : Action (Stage τ)) : Prop := action.Throughout Action.Discreet others

/-- An action is discreet, or writes a line. -/
def Action.OnStage (action : Action (Stage τ)) : Prop :=
  action.Aside ∨ ∃ text pacing, action = speech text pacing

namespace Stage

/-- A writer writes its text, if it has one. -/
theorem writer_eq (name : String) (pacing : Pacing) (args : ComponentArgs) :
    writer (τ := τ) name pacing args =
      ((args.find? "text").bind Value.asString?).elim
        (.done (.error ⟨.host (name ++ " needs a string `text` argument"), none⟩))
        (speech · pacing) := by
  rw [writer]
  cases (args.find? "text").bind Value.asString? <;> rfl

theorem onStage_writer (name : String) (pacing : Pacing) (args : ComponentArgs) :
    (writer name pacing args : Action (Stage τ)).OnStage := by
  rw [writer_eq]
  cases (args.find? "text").bind Value.asString? with
  | none => exact .inl trivial
  | some text => exact .inr ⟨text, pacing, rfl⟩

end Stage

namespace Engine

/-- The only output of an engine is what its `say` and `log` write. -/
structure Staged (e : Engine (Stage τ)) : Prop where
  say : e.components.find? "say" = some (writer "say" .pause)
  log : e.components.find? "log" = some (writer "log" .proceed)
  components : e.Throughout Action.Discreet others
  functions (name : String) (function : HostFunction (Stage τ)) :
    e.functions.find? name = some function → function.Discreet
  subscribers (transcript : Transcript) : e.world.Overlooks (withTranscript transcript)

def withTranscript (transcript : Transcript) (e : Engine (Stage τ)) : Engine (Stage τ) :=
  { e with world := e.world.modify (Stage.withTranscript transcript) }

/-- The lines that have been written and not yet taken. -/
def lines (e : Engine (Stage τ)) : List String := e.world.host.transcript.lines

variable {e after : Engine (Stage τ)} {transcript : Transcript}

theorem withTranscript_self (e : Engine (Stage τ)) :
    e.withTranscript e.world.host.transcript = e := rfl

@[simp]
theorem withTranscript_withTranscript (transcript other : Transcript) (e : Engine (Stage τ)) :
    (e.withTranscript other).withTranscript transcript = e.withTranscript transcript := rfl

theorem withTranscript_empty (empty : e.lines = []) : e.withTranscript {} = e := by
  have same : e.world.host.transcript = {} :=
    congrArg Transcript.mk (List.reverse_eq_nil_iff.mp empty)
  rw [← same, withTranscript_self]

/-- What the transcript may be replaced by is what is in it, if nothing changes then. -/
theorem lines_of_withTranscript (same : e.withTranscript transcript = e) :
    e.lines = transcript.lines := by
  rw [← same]
  rfl

theorem perform_withTranscript (transcript : Transcript) (e : Engine (Stage τ))
    (operation : Operation (Stage τ)) :
    (e.withTranscript transcript).perform operation =
      (e.perform operation).withTranscript transcript := by
  cases operation with
  | declare name initial => simp only [perform, withTranscript, World.declare_modify]
  | _ => rfl

theorem lines_perform (e : Engine (Stage τ)) (operation : Operation (Stage τ)) :
    (e.perform operation).lines = e.lines := by
  have same := perform_withTranscript e.world.host.transcript e operation
  rw [withTranscript_self] at same
  exact lines_of_withTranscript same.symm

theorem record_withTranscript (transcript : Transcript) (e : Engine (Stage τ))
    (instruction : Instruction) :
    (e.withTranscript transcript).record instruction =
      (e.record instruction).withTranscript transcript := by
  rw [record, record, show (e.withTranscript transcript).config = e.config from rfl]
  split <;> rfl

theorem lines_record (e : Engine (Stage τ)) (instruction : Instruction) :
    (e.record instruction).lines = e.lines := by
  have same := record_withTranscript e.world.host.transcript e instruction
  rw [withTranscript_self] at same
  exact lines_of_withTranscript same.symm

namespace Staged

variable (staged : e.Staged)

include staged

theorem resembles (transcript : Transcript) :
    e.Resembles (Stage.withTranscript transcript) Eq (e.withTranscript transcript) where
  control := rfl
  statics := rfl
  world := rfl
  functions := rfl
  evaluator := rfl
  components := rfl
  subscribers := staged.subscribers transcript
  computations name function found := staged.functions name function found transcript
  outlooks _ := rfl

/-- An engine stays on the stage as long as its host code is the same. -/
theorem congr {f : Engine (Stage τ)} (components : f.components = e.components)
    (functions : f.functions = e.functions)
    (subscribers : ∀ transcript, f.world.Overlooks (Stage.withTranscript transcript)) :
    f.Staged where
  say := components ▸ staged.say
  log := components ▸ staged.log
  components := by
    rw [Throughout, components]
    exact staged.components
  functions := by
    rw [functions]
    exact staged.functions
  subscribers := subscribers

theorem withTranscript (transcript : Transcript) : (e.withTranscript transcript).Staged :=
  staged.congr rfl rfl staged.subscribers

theorem steer (move : Control → Control) : (e.steer move).Staged :=
  staged.congr rfl rfl staged.subscribers

theorem record (instruction : Instruction) : (e.record instruction).Staged := by
  rw [Engine.record]
  split
  · exact staged.congr rfl rfl staged.subscribers
  · exact staged

/-- What a component does that is called is discreet, or writes a line. -/
theorem onStage {instruction : Instruction} {action : Action (Stage τ)}
    (calls : e.calledAction? instruction = some action) : action.OnStage := by
  cases instruction with
  | callComponent name args =>
    obtain ⟨component, found, rfl⟩ := Option.map_eq_some_iff.mp calls
    by_cases speaks : name = "say"
    · rw [speaks, staged.say] at found
      cases found
      exact onStage_writer _ _ args
    · by_cases logs : name = "log"
      · rw [logs, staged.log] at found
        cases found
        exact onStage_writer _ _ args
      · exact .inl (staged.components name args ⟨speaks, logs⟩ component found)
  | _ => cases calls

theorem perform {operation : Operation (Stage τ)} (discreet : operation.Discreet)
    (registers : operation.Throughout Action.Discreet others) : (e.perform operation).Staged := by
  have components := staged.components.perform registers
  cases operation with
  | register name component =>
    refine ⟨?_, ?_, components, staged.functions, staged.subscribers⟩
    · rw [Engine.perform, Engine.register, NameTable.find?_insert]
      split
      · next same => rw [discreet.1 same]
      · exact staged.say
    · rw [Engine.perform, Engine.register, NameTable.find?_insert]
      split
      · next same => rw [discreet.2 same]
      · exact staged.log
  | registerFunction name function =>
    refine ⟨staged.say, staged.log, components, ?_, staged.subscribers⟩
    intro other found bound
    simp only [Engine.perform, Engine.registerFunction, NameTable.find?_insert] at bound
    split at bound
    · cases bound
      exact discreet
    · exact staged.functions other found bound
  | declare name initial =>
    refine staged.congr rfl rfl fun transcript => ?_
    exact (staged.subscribers transcript).declare name initial
  | _ => exact staged.congr rfl rfl staged.subscribers

/-- An instruction that calls no component leaves the transcript alone, and does the same whatever
is in it. -/
theorem execute {fuel : Nat} {instruction : Instruction} {result : Except Failure Pacing}
    (simple : e.calledAction? instruction = none)
    (ran : Engine.execute fuel instruction e = some (result, after)) :
    after.Staged ∧ after.lines = e.lines ∧ ∀ transcript,
      Engine.execute fuel instruction (e.withTranscript transcript) =
        some (result, after.withTranscript transcript) := by
  have kept (transcript : Transcript) : after.components = e.components ∧
      after.functions = e.functions ∧ after.world.Overlooks (Stage.withTranscript transcript) ∧
        Engine.execute fuel instruction (e.withTranscript transcript) =
          some (result, after.withTranscript transcript) := by
    obtain ⟨control, statics, world, overlooks, rfl, runs⟩ :=
      (staged.resembles transcript).execute simple ran
    exact ⟨rfl, rfl, overlooks, runs⟩
  obtain ⟨components, functions, -, same⟩ := kept e.world.host.transcript
  refine ⟨staged.congr components functions fun transcript => (kept transcript).2.2.1, ?_,
    fun transcript => (kept transcript).2.2.2⟩
  rw [withTranscript_self, ran, Option.some_inj, Prod.mk.injEq] at same
  exact lines_of_withTranscript same.2.symm

/-- A discreet act leaves the transcript alone, and does the same whatever is in it. -/
theorem acts {action next : Action (Stage τ)} (aside : action.Aside)
    (acts : e.Acts action next after) :
    after.Staged ∧ next.Aside ∧ after.lines = e.lines ∧ ∀ transcript,
      (e.withTranscript transcript).Acts action next (after.withTranscript transcript) := by
  cases acts with
  | perform operation =>
    refine ⟨staged.perform aside.here aside.2.1, aside.2.2, lines_perform e operation, ?_⟩
    intro transcript
    rw [← perform_withTranscript]
    exact .perform operation next
  | @react fuel _ _ world ran =>
    have calm (transcript : Transcript) := (aside.here transcript).run (staged.subscribers _) ran
    refine ⟨staged.congr rfl rfl fun transcript => (calm transcript).1, aside.2, ?_,
      fun transcript => .react (calm transcript).2⟩
    have same := ran.symm.trans (calm e.world.host.transcript).2
    rw [Option.some_inj] at same
    exact lines_of_withTranscript (congrArg (fun world => { e with world }) same.symm)
  | consult next =>
    refine ⟨staged, aside.2 _, rfl, fun transcript => ?_⟩
    rw [← aside.here transcript e.world.host]
    exact .consult next
  | observe next => exact ⟨staged, aside.2 _, rfl, fun _ => .observe next⟩
  | settings next => exact ⟨staged, aside.2 _, rfl, fun _ => .settings next⟩
  | records next => exact ⟨staged, aside.2 _, rfl, fun _ => .records next⟩
  | @evaluate fuel operand embedded next result world evaluated =>
    have calm (transcript : Transcript) := (staged.resembles transcript).evaluateOperand evaluated
    refine ⟨staged.congr rfl rfl fun transcript => (calm transcript).1, aside.2 _, ?_,
      fun transcript => .evaluate (calm transcript).2⟩
    have same := evaluated.symm.trans (calm e.world.host.transcript).2
    rw [Option.some_inj, Prod.mk.injEq] at same
    exact lines_of_withTranscript (congrArg (fun world => { e with world }) same.2.symm)

/-- A discreet act is noticed in the same way whatever is in the transcript. -/
theorem actNotices {fuel : Nat} {action : Action (Stage τ)} {notices : List (Notice (Stage τ))}
    (aside : action.Aside) (told : e.actNotices? fuel action = some notices)
    (transcript : Transcript) :
    (e.withTranscript transcript).actNotices? fuel action = some notices := by
  have resembles := staged.resembles transcript
  cases action with
  | react => exact resembles.actNotices_react (aside.here transcript) told
  | evaluate => exact resembles.actNotices_evaluate told
  | ask request next => cases request <;> exact told
  | _ => exact told

/-- Writing a line adds it to the transcript, and is not noticed as such. -/
theorem acts_speech {text : String} {pacing : Pacing} {next : Action (Stage τ)}
    (acts : e.Acts (speech text pacing) next after) :
    next = .done (.ok pacing) ∧ after.Staged ∧ after.lines = e.lines ++ [text] ∧
      ∀ transcript, (e.withTranscript transcript).Acts (speech text pacing) next
        (after.withTranscript (transcript.push text)) := by
  cases acts with
  | @react fuel _ _ world ran =>
    match fuel with
    | 0 | 1 => simp [Reaction.run] at ran
    | fuel + 2 =>
      cases ran
      refine ⟨rfl, staged.congr rfl rfl staged.subscribers, Transcript.lines_push _ text, ?_⟩
      intro transcript
      have writes : (Reaction.modify (·.write text) .done).run (fuel + 2)
          (e.withTranscript transcript).world =
            some ((e.world.modify (·.write text)).modify
              (Stage.withTranscript (transcript.push text))) := rfl
      exact .react writes

end Staged

/-- Engines on a stage that differ in the transcript alone. -/
def staging : Likeness (Stage τ) where
  engines e f := e.Staged ∧ ∃ transcript, f = e.withTranscript transcript
  actions action other := other = action ∧ action.OnStage

open Likeness

theorem Staged.matched_acts {action next : Action (Stage τ)} {fuel : Nat}
    {notices : List (Notice (Stage τ))} (staged : e.Staged) (onStage : action.OnStage)
    (acts : e.Acts action next after) (told : e.actNotices? fuel action = some notices)
    (transcript : Transcript) :
    ∃ last, Comes (e.withTranscript transcript) action notices last next ∧
      staging.engines after last ∧ next.OnStage := by
  rcases onStage with aside | ⟨text, pacing, rfl⟩
  · obtain ⟨still, aside', -, same⟩ := staged.acts aside acts
    have told := staged.actNotices aside told transcript
    exact ⟨_, .of_acts fuel (same transcript) told, ⟨still, _, rfl⟩, .inl aside'⟩
  · obtain ⟨rfl, still, -, same⟩ := staged.acts_speech acts
    refine ⟨_, .of_acts fuel (same transcript) ?_, ⟨still, _, rfl⟩, .inl trivial⟩
    match fuel with
    | 0 | 1 => simp [speech, actNotices?, Reaction.follow] at told
    | fuel + 2 => exact told

theorem kept_staging : (staging (τ := τ)).Kept where
  control := by
    rintro e f ⟨-, transcript, rfl⟩
    rfl
  maxBurst := by
    rintro e f ⟨-, transcript, rfl⟩
    rfl
  steer := by
    rintro e f ⟨staged, transcript, rfl⟩ move
    exact ⟨staged.steer move, transcript, rfl⟩
  record := by
    rintro e f ⟨staged, transcript, rfl⟩ instruction
    exact ⟨staged.record instruction, transcript, record_withTranscript transcript e instruction⟩
  called := by
    rintro e f ⟨staged, transcript, rfl⟩ instruction
    have same : (e.withTranscript transcript).calledAction? instruction =
        e.calledAction? instruction := by
      cases instruction <;> rfl
    rw [same]
    cases calls : e.calledAction? instruction with
    | none => exact .none
    | some action => exact .some ⟨rfl, staged.onStage calls⟩
  notices := by
    rintro e f fuel instruction notices ⟨staged, transcript, rfl⟩ told
    exact (staged.resembles transcript).notices told
  execute := by
    rintro e f after fuel instruction result ⟨staged, transcript, rfl⟩ simple ran
    obtain ⟨still, -, runs⟩ := staged.execute simple ran
    exact ⟨_, runs transcript, still, transcript, rfl⟩
  acts := by
    rintro e f after action _ next fuel notices ⟨staged, transcript, rfl⟩ ⟨rfl, onStage⟩ acts told
    obtain ⟨last, comes, engines, onStage⟩ := staged.matched_acts onStage acts told transcript
    exact ⟨last, next, comes, engines, rfl, onStage⟩
  done := by
    rintro e f result _ engines ⟨rfl, -⟩
    exact ⟨f, .refl f _, engines⟩
  ask := by
    rintro e f request _ next engines ⟨rfl, onStage⟩
    refine ⟨f, next, .refl f _, engines, fun result => ⟨rfl, ?_⟩⟩
    rcases onStage with aside | ⟨text, pacing, speaks⟩
    · exact .inl (aside.2 result)
    · cases speaks

/-- A request is answered in the same way whatever is in the transcript. -/
theorem Staged.answers {request : Request} {result : Except Failure (Option StepOutcome)}
    (staged : e.Staged) (answers : e.Answers request result after) (transcript : Transcript) :
    after.Staged ∧ ∃ more,
      (e.withTranscript transcript).Answers request result (after.withTranscript more) := by
  have asks : (Action.ask request (expecting result) : Action (Stage τ)).OnStage :=
    .inl ⟨trivial, fun _ => trivial⟩
  obtain ⟨_, onward, still, more, rfl⟩ :=
    kept_staging.answers ⟨staged, transcript, rfl⟩ ⟨rfl, asks⟩ answers
  exact ⟨still, more, onward⟩

end Engine

end DialogueEngine
