import DialogueEngine.Proofs.Engine.Blindness
import DialogueEngine.Proofs.Engine.Machine.Determinism
import DialogueEngine.Proofs.Engine.Request

/-!
# The frame rule for sub-programs

A sub-program that comes to its end alone, with all of its calls returned, does just the same on top
of any other programs and calls. Both do one thing after the other in step, and when the sub-program
has ended, the engine goes on with what lies beneath exactly where that was left. Host code must not
see what lies beneath, though: a function that looks at the call stack can tell the two apart.
-/

namespace DialogueEngine

variable {σ : Type}

/-- What is under way on top of others. What a component call puts back is on top of them as well.
-/
def Frame.on (base : Control) : Frame σ → Frame σ
  | .component before => .component (before.on base)
  | .request next => .request next
  | .run => .run
  | .step mode executed instruction position => .step mode executed instruction position

namespace Situation

/-- The same is under way in a situation as in another one, on top of what lies beneath. -/
structure Atop (base : Control) (c below : Situation σ) : Prop where
  engine : c.engine.Atop base below.engine
  activity : below.activity = c.activity
  frames : below.frames = c.frames.map (Frame.on base)

/-- Two machines do one thing each, and then the same is under way in the second as in the first, on
top of what lies beneath. -/
def InStep (base : Control) (both next : Situation σ × Situation σ) : Prop :=
  Tick both.1 next.1 ∧ Tick both.2 next.2 ∧ next.1.Atop base next.2

abbrev Lockstep (base : Control) : Situation σ × Situation σ → Situation σ × Situation σ → Prop :=
  Relation.ReflTransGen (InStep base)

end Situation

open Situation

namespace Engine

variable {v : Vocabulary} {sub : Program} {base : Control} {e f after : Engine σ}

theorem lockstep_of_act {fuel : Nat} {action : Action σ} {pacing : Pacing} (blind : e.Blind v)
    (acting : action.Throughout (Action.Blind v.functions) v.calls) (atop : e.Atop base f)
    (acted : act fuel action e = some (.ok pacing, after)) :
    ∃ below, (∀ frames, Lockstep base
        (⟨e, .act action, frames⟩, ⟨f, .act action, frames.map (Frame.on base)⟩)
        (⟨after, .act (.done (.ok pacing)), frames⟩,
          ⟨below, .act (.done (.ok pacing)), frames.map (Frame.on base)⟩)) ∧
      after.Atop base below ∧ after.Blind v ∧ after.control = e.control := by
  induction fuel generalizing action e f with
  | zero => simp [act] at acted
  | succ fuel ih =>
    have quiet (request next) : action ≠ .ask request next := by
      rintro rfl
      exact acting.here
    rcases acts_of_act quiet acted with ⟨rfl, rfl⟩ | ⟨next, middle, acts, rest⟩
    · exact ⟨f, fun _ => .refl, atop, blind, rfl⟩
    · obtain ⟨acting', blind', control⟩ := blind.acts acting acts
      obtain ⟨lower, actsBelow, atop'⟩ := atop.acts blind acting.here acts
      obtain ⟨below, path, atop, blind, same⟩ := ih blind' acting' atop' rest
      refine ⟨below, fun frames => ?_, atop, blind, same.trans control⟩
      exact .head ⟨.act acts, .act actsBelow, atop', rfl, rfl⟩ (path frames)

theorem lockstep_of_execute {fuel executed : Nat} {instruction : Instruction} {pacing : Pacing}
    {mode : StepMode} (unlocked : base.locked = false) (within : sub.Within v)
    (solitary : e.Solitary sub v) (atop : e.Atop base f) (begins : e.Begins executed instruction)
    (ran : execute fuel instruction (e.record instruction) = some (.ok pacing, after)) :
    ∃ below, (∀ frames, Lockstep base
        (⟨e, .advance mode executed, frames⟩,
          ⟨f, .advance mode executed, frames.map (Frame.on base)⟩)
        (⟨after, .executed (.ok pacing),
            .step mode executed instruction e.control.position :: frames⟩,
          ⟨below, .executed (.ok pacing),
            .step mode executed instruction e.control.position ::
              frames.map (Frame.on base)⟩)) ∧
      after.Atop base below ∧ after.Solitary sub v := by
  have known := solitary.within within begins.next
  have ⟨trace, _, same⟩ := atop
  subst same
  have beginsBelow : Begins { e with control := e.control.on base, trace } executed instruction :=
    ⟨unlocked, begins.next, begins.within⟩
  have recorded := atop.record instruction
  have solitary := solitary.record instruction
  cases calls : e.calledAction? instruction with
  | none =>
    have simple := (calledAction?_record e instruction).trans calls
    obtain ⟨below, ranBelow, atop, solitary⟩ := solitary.execute known simple recorded ran
    refine ⟨below, fun frames => ?_, atop, solitary⟩
    exact .single ⟨.execute begins calls ran, .execute beginsBelow calls ranBelow, atop, rfl, rfl⟩
  | some action =>
    cases fuel with
    | zero => simp [execute] at ran
    | succ fuel =>
      cases executed_of_execute ran with
      | @performed name args _ _ _ found acted =>
        have called :=
          (calledAction?_record e _).symm.trans (calledAction?_callComponent found args)
        have inside : ((e.record (.callComponent name args)).steer Control.moveOn).Solitary sub v :=
          solitary.congr rfl rfl rfl rfl rfl
        have entered := recorded.steer (show Control.moveOn _ = _ from rfl)
        obtain ⟨below, path, atop, blind, control⟩ :=
          lockstep_of_act inside.blind (inside.blind.components _ _ known _ found) entered acted
        refine ⟨below, fun frames => ?_, atop, ?_⟩
        · exact .head ⟨.enter begins called, .enter beginsBelow called, entered, rfl, rfl⟩
            ((path
              (.component e.control :: .step mode executed _ e.control.position :: frames)).tail
              ⟨.leave .., .leave .., atop, rfl, rfl⟩)
        · exact ⟨(congrArg Control.program control).trans inside.program,
            (congrArg Control.continuations control).trans inside.alone,
            (congrArg Control.locked control).trans inside.unlocked, blind⟩
      | _ => cases calls

/-- What is under way when a burst of a program that is alone is over: it has paused, or it is about
to find that nothing is left. -/
inductive BurstEnds (e : Engine σ) : StepOutcome → Activity σ → Prop where
  | paused : BurstEnds e .paused (.stepped (.ok .paused))
  | halted (executed : Nat) (finished : e.control.instruction? = none) :
      BurstEnds e .halted (.advance .burst executed)

theorem lockstep_of_advance {fuel executed : Nat} {outcome : StepOutcome}
    (unlocked : base.locked = false) (within : sub.Within v) (solitary : e.Solitary sub v)
    (atop : e.Atop base f) (advanced : advance fuel .burst executed e = some (.ok outcome, after)) :
    ∃ below activity, (∀ frames, Lockstep base
        (⟨e, .advance .burst executed, frames⟩,
          ⟨f, .advance .burst executed, frames.map (Frame.on base)⟩)
        (⟨after, activity, frames⟩, ⟨below, activity, frames.map (Frame.on base)⟩)) ∧
      after.Atop base below ∧ after.Solitary sub v ∧ after.BurstEnds outcome activity := by
  induction fuel generalizing executed e f with
  | zero => simp [advance] at advanced
  | succ fuel ih =>
    cases advanced_of_advance advanced with
    | deferred locked => cases solitary.unlocked.symm.trans locked
    | halted _ finished => exact ⟨f, _, fun _ => .refl, atop, solitary, .halted executed finished⟩
    | resumed _ _ resume => simp [Control.resume?, solitary.alone] at resume
    | stepped single => cases single
    | paused _ ready next reached ran =>
      obtain ⟨below, path, atop, solitary⟩ :=
        lockstep_of_execute unlocked within solitary atop ⟨ready, next, reached⟩ ran
      refine ⟨below, _, fun frames => ?_, atop, solitary, .paused⟩
      exact (path frames).tail ⟨.pause .., .pause .., atop, rfl, rfl⟩
    | onward _ ready next reached ran rest =>
      obtain ⟨lower, first, between, solitary⟩ :=
        lockstep_of_execute unlocked within solitary atop ⟨ready, next, reached⟩ ran
      obtain ⟨below, activity, path, ended⟩ := ih solitary between rest
      refine ⟨below, activity, fun frames => ?_, ended⟩
      exact ((first frames).tail ⟨.goOn .., .goOn .., between, rfl, rfl⟩).trans (path frames)

/-! ## The host -/

/-- A host that asks for steps until the last of some pauses is over. -/
def asking : Nat → Action σ
  | 0 => .ask .step fun _ => .done (.ok .proceed)
  | pauses + 1 => .ask .step fun _ => asking pauses

/-- The last request of such a host. -/
def awaiting : Frame σ := .request fun _ => .done (.ok .proceed)

theorem lockstep_of_runThrough {fuel : Nat} (unlocked : base.locked = false)
    (within : sub.Within v) (solitary : e.Solitary sub v) (atop : e.Atop base f)
    (ran : runThrough fuel e = some (.ok .halted, after)) :
    ∃ pauses executed below, Lockstep base
        (⟨e, .act (asking pauses), []⟩, ⟨f, .act (asking pauses), []⟩)
        (⟨after, .advance .burst executed, [awaiting]⟩,
          ⟨below, .advance .burst executed, [awaiting]⟩) ∧
      after.Atop base below ∧ after.Solitary sub v ∧ after.control.instruction? = none := by
  induction fuel generalizing e f with
  | zero => simp [runThrough] at ran
  | succ fuel ih =>
    rcases advanced : advance fuel .burst 0 e with _ | ⟨failure | outcome, middle⟩
    · simp [runThrough, advanced] at ran
    · simp [runThrough, advanced] at ran
    · rw [runThrough_eq advanced] at ran
      obtain ⟨below, activity, path, between, solitary, ended⟩ :=
        lockstep_of_advance unlocked within solitary atop advanced
      cases ended with
      | paused =>
        obtain ⟨pauses, executed, below, onward, ended⟩ := ih solitary between ran
        have onward := (path [.request fun _ => asking pauses]).trans
          (.head ⟨.answer .., .answer .., between, rfl, rfl⟩ onward)
        refine ⟨pauses + 1, executed, below, ?_, ended⟩
        exact .head ⟨.askStep .., .askStep .., atop, rfl, rfl⟩ onward
      | halted executed finished =>
        cases ran
        refine ⟨0, executed, below, ?_, between, solitary, finished⟩
        exact .head ⟨.askStep .., .askStep .., atop, rfl, rfl⟩ (path [awaiting])

/-- The engine with a program alone on it, with nothing to return to and nothing to go on with. -/
def alone (e : Engine σ) (sub : Program) : Engine σ := e.steer fun _ => { program := sub }

/-- A sub-program that comes to its end alone, with all of its calls returned, does the same on top
of the programs and calls of another engine state, whatever these are: step by step, as often as it
pauses. When it has ended, the engine goes on with what lies beneath from where that was left, and
all else is as the sub-program has left it when alone. The components and functions that it uses are
blind: they neither see nor change the control state, nor see the depths that the trace records. -/
theorem keeps_in_step_on_top {s : Engine σ} (within : sub.Within v) (blind : s.Blind v)
    (unlocked : s.control.locked = false)
    (halts : (s.alone sub).Answers .run (.ok (some .halted)) after)
    (returned : after.control.callStack = []) :
    ∃ pauses executed below trace,
      Lockstep s.control
        (⟨s.alone sub, .act (asking pauses), []⟩,
          ⟨s.perform (.loadSub sub), .act (asking pauses), []⟩)
        (⟨after, .advance .burst executed, [awaiting]⟩,
          ⟨below, .advance .burst executed, [awaiting]⟩) ∧
      Tick ⟨after, .advance .burst executed, [awaiting]⟩
        ⟨after, .stepped (.ok .halted), [awaiting]⟩ ∧
      Tick ⟨below, .advance .burst executed, [awaiting]⟩
        ⟨{ after with control := s.control, trace }, .advance .burst executed, [awaiting]⟩ ∧
      trace.leveled = after.trace.leveled := by
  obtain ⟨fuel, answered⟩ := halts
  cases fuel with
  | zero => simp [answer] at answered
  | succ fuel =>
    rw [answer] at answered
    obtain ⟨⟨result, last⟩, ran, same⟩ := Option.map_eq_some_iff.mp answered
    cases result with
    | error failure => cases same
    | ok outcome =>
      cases same
      have solitary : (s.alone sub).Solitary sub v := ⟨rfl, rfl, rfl, blind.congr rfl rfl⟩
      have atop : (s.alone sub).Atop s.control (s.perform (.loadSub sub)) := ⟨s.trace, rfl, rfl⟩
      obtain ⟨pauses, executed, below, path, ⟨trace, leveled, rfl⟩, solitary, finished⟩ :=
        lockstep_of_runThrough unlocked within solitary atop ran
      have nothing : after.control.resume? = none := by simp [Control.resume?, solitary.alone]
      have back : (after.control.on s.control).resume? = some s.control := by
        simp [Control.resume?, Control.on, Control.suspended, solitary.alone, returned]
      exact ⟨pauses, executed, _, trace, path, .halt solitary.unlocked finished nothing,
        .resume unlocked finished back, leveled⟩

/-- A component that sets a variable and asks for a pause. -/
def takeNote : Component Unit := fun _ =>
  .perform (.setStatic "noted" (.bool true)) (.done (.ok .pause))

/-- A program with a subroutine in which a note is taken. -/
def aside : Program := [.call 2, .goto 4, .callComponent "note" .empty, .ret]

def asideVocabulary : Vocabulary := ⟨{("note", .empty)}, ∅⟩

/-- An engine in the middle of a call, with a program suspended. -/
def beneathAside : Engine Unit :=
  ((Engine.new {} ()).perform (.register "note" takeNote)).steer fun _ =>
    { program := [.ret], callStack := [3], continuations := [⟨[.goto 0], 1⟩] }

theorem keeps_in_step_on_top_aside :
    ∃ after pauses executed below trace,
      aside.Within asideVocabulary ∧ beneathAside.Blind asideVocabulary ∧
      beneathAside.control.locked = false ∧
      (beneathAside.alone aside).Answers .run (.ok (some .halted)) after ∧
      after.control.callStack = [] ∧
      Lockstep beneathAside.control
        (⟨beneathAside.alone aside, .act (asking pauses), []⟩,
          ⟨beneathAside.perform (.loadSub aside), .act (asking pauses), []⟩)
        (⟨after, .advance .burst executed, [awaiting]⟩,
          ⟨below, .advance .burst executed, [awaiting]⟩) ∧
      Tick ⟨below, .advance .burst executed, [awaiting]⟩
        ⟨{ after with control := beneathAside.control, trace }, .advance .burst executed,
          [awaiting]⟩ := by
  have within : aside.Within asideVocabulary := by
    intro instruction mem
    simp only [aside, List.mem_cons, List.not_mem_nil, or_false] at mem
    rcases mem with rfl | rfl | rfl | rfl <;> trivial
  have blind : beneathAside.Blind asideVocabulary := by
    constructor
    · intro name args mem component found
      have same : (name, args) = ("note", .empty) := mem
      cases same
      cases found
      exact ⟨trivial, trivial, trivial⟩
    · intro name mem
      cases mem
  have halts : (beneathAside.alone aside).Answers .run (.ok (some .halted)) _ := ⟨20, rfl⟩
  obtain ⟨pauses, executed, below, trace, path, -, back, -⟩ :=
    keeps_in_step_on_top within blind rfl halts rfl
  exact ⟨_, pauses, executed, below, trace, within, blind, rfl, halts, rfl, path, back⟩

/-! ## Host code that sees what lies beneath -/

/-- A sub-program comes to its end alone, with all of its calls returned; but on top of an engine it
is not in step: when that is back at what lies beneath, the variables are never those that the
sub-program leaves when alone. -/
def OutOfStep (s : Engine σ) (sub : Program) : Prop :=
  ∃ after, (s.alone sub).Answers .run (.ok (some .halted)) after ∧ after.control.callStack = [] ∧
    ∀ c, Ticks ⟨s.perform (.loadSub sub), .act (asking 0), []⟩ c →
      c.engine.control = s.control → c.engine.statics ≠ after.statics

/-- With nothing left to execute, the engine keeps its variables. -/
theorem statics_eq_of_finished {control : Control} {executed position : Nat}
    {instruction : Instruction} {c : Situation σ} (unlocked : e.control.locked = false)
    (finished : e.control.instruction? = none) (resume : e.control.resume? = some control)
    (free : control.locked = false) (nothing : control.instruction? = none)
    (last : control.resume? = none)
    (ticks : Ticks
      ⟨e, .executed (.ok .proceed), [.step .burst executed instruction position, awaiting]⟩ c) :
    c.engine.statics = e.statics := by
  rcases ticks.eq_or_of_tick (.goOn ..) with rfl | ticks
  · rfl
  rcases ticks.eq_or_of_tick (.resume unlocked finished resume) with rfl | ticks
  · rfl
  rcases ticks.eq_or_of_tick (.halt free nothing last) with rfl | ticks
  · rfl
  rcases ticks.eq_or_of_tick (.answer ..) with rfl | ticks
  · rfl
  rcases ticks.cases_head with rfl | ⟨_, tick, _⟩
  · rfl
  · cases tick with
    | act acts => cases acts

/-- Tells how many calls have not returned yet. -/
def callDepth : HostFunction Unit := fun _ =>
  .observe fun outlook => .pure (.int (.ofNat outlook.control.callStack.length))

/-- A program that keeps what the function tells. -/
def glance : Program := [.setStatic "depth" (.call "depth" []) false]

/-- An engine without components whose program has ended in the middle of a call. -/
def beneathGlance : Engine Unit :=
  ((Engine.new {} ()).perform (.registerFunction "depth" callDepth)).steer fun _ =>
    { callStack := [3] }

theorem outOfStep_glance : OutOfStep beneathGlance glance := by
  have halts : (beneathGlance.alone glance).Answers .run (.ok (some .halted)) _ := ⟨20, rfl⟩
  refine ⟨_, halts, rfl, ?_⟩
  have begins : (beneathGlance.perform (.loadSub glance)).Begins 0
      (.setStatic "depth" (.call "depth" []) false) := ⟨rfl, rfl, rfl⟩
  have ran : execute 5 (.setStatic "depth" (.call "depth" []) false)
      ((beneathGlance.perform (.loadSub glance)).record
        (.setStatic "depth" (.call "depth" []) false)) = some (.ok .proceed, _) := rfl
  intro c ticks back same
  -- the engine is in the sub-program until it has executed the instruction
  rcases ticks.eq_or_of_tick (.askStep ..) with rfl | ticks
  · cases congrArg Control.depth back
  rcases ticks.eq_or_of_tick (.execute begins rfl ran) with rfl | ticks
  · cases congrArg Control.depth back
  -- then the variable is 1, and it is 0 when the sub-program is alone
  have kept := statics_eq_of_finished rfl rfl rfl rfl rfl rfl ticks
  cases congrArg (NameTable.find? · "depth") (kept.symm.trans same)

/-- Keeps how many programs were suspended when it was called. -/
def recallDepth : Component Unit := fun _ =>
  .records fun trace =>
    .perform (.setStatic "depth" (.int (.ofNat (trace.records.getLast?.elim 0 (·.depth)))))
      (.done (.ok .proceed))

def recollection : Program := [.callComponent "recall" .empty]

/-- An engine without functions that traces what it does, and whose program has ended. -/
def beneathRecollection : Engine Unit :=
  (Engine.new { traceEnabled := true } ()).perform (.register "recall" recallDepth)

theorem outOfStep_recollection : OutOfStep beneathRecollection recollection := by
  have halts : (beneathRecollection.alone recollection).Answers .run (.ok (some .halted)) _ :=
    ⟨20, rfl⟩
  refine ⟨_, halts, rfl, ?_⟩
  have begins : (beneathRecollection.perform (.loadSub recollection)).Begins 0
      (.callComponent "recall" .empty) := ⟨rfl, rfl, rfl⟩
  intro c ticks back same
  -- the engine is in the sub-program until the component has returned
  rcases ticks.eq_or_of_tick (.askStep ..) with rfl | ticks
  · cases congrArg Control.depth back
  rcases ticks.eq_or_of_tick (.enter begins rfl) with rfl | ticks
  · cases congrArg Control.depth back
  rcases ticks.eq_or_of_tick (.act (.records _)) with rfl | ticks
  · cases congrArg Control.depth back
  rcases ticks.eq_or_of_tick (.act (.perform _ _)) with rfl | ticks
  · cases congrArg Control.depth back
  rcases ticks.eq_or_of_tick (.leave ..) with rfl | ticks
  · cases congrArg Control.depth back
  -- then the variable is 1, and it is 0 when the sub-program is alone
  have kept := statics_eq_of_finished rfl rfl rfl rfl rfl rfl ticks
  cases congrArg (NameTable.find? · "depth") (kept.symm.trans same)

/-- A function that sees the call stack tells what lies beneath a sub-program, and so does a
component that sees the trace. -/
theorem out_of_step_with_a_view :
    (beneathGlance.components = .empty ∧ beneathGlance.control.locked = false ∧
      beneathGlance.config.maxBurst = none ∧ OutOfStep beneathGlance glance) ∧
    beneathRecollection.functions = .empty ∧ beneathRecollection.control.locked = false ∧
      beneathRecollection.config.maxBurst = none ∧
      OutOfStep beneathRecollection recollection :=
  ⟨⟨rfl, rfl, rfl, outOfStep_glance⟩, rfl, rfl, rfl, outOfStep_recollection⟩

end Engine

end DialogueEngine
