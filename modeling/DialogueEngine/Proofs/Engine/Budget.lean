import DialogueEngine.Proofs.Engine.Burst
import DialogueEngine.Proofs.Engine.Conduct

/-!
# The budget of a step

A limit on the number of instructions cuts a step off and changes nothing else. If the host code
returns, then a step with a limit does; it does what it would have done without one, unless it would
begin an instruction beyond the limit. Host code that asks for no steps and does not read the
configuration cannot tell whether there is a limit.
-/

namespace DialogueEngine

variable {σ : Type}

/-- Two outlooks differ in the configuration only. -/
def Outlook.SameButConfig (outlook other : Outlook) : Prop :=
  ∃ config, other = { outlook with config }

/-- An act neither asks for anything nor reads the configuration, and registers no function that
does. -/
def Action.Modest : Action σ → Prop
  | .ask .. | .settings _ => False
  | .perform operation _ => operation.Respects Outlook.SameButConfig Set.univ
  | .done _ | .react .. | .consult _ | .observe _ | .records _ | .evaluate .. => True

namespace Engine

variable {e after : Engine σ}

/-- The engine with another limit on the instructions of a step. -/
def withLimit (limit : Option Nat) (e : Engine σ) : Engine σ :=
  { e with config := { e.config with maxBurst := limit } }

/-- All components are modest, and no function reads the configuration. -/
abbrev Modest (e : Engine σ) : Prop :=
  e.Conducts Action.Modest Set.univ Outlook.SameButConfig Set.univ

/-! ## The limit makes no difference to host code -/

theorem looksLike_withLimit (e : Engine σ) (limit : Option Nat) :
    e.LooksLike Outlook.SameButConfig (e.withLimit limit) :=
  ⟨rfl, rfl, rfl, rfl, fun _ => ⟨_, rfl⟩⟩

theorem Modest.evaluateOperand_withLimit (modest : e.Modest) (limit : Option Nat) (fuel : Nat)
    (operand : Operand) (embedded : Bool) :
    (e.withLimit limit).evaluateOperand fuel operand embedded =
      e.evaluateOperand fuel operand embedded :=
  (e.looksLike_withLimit limit).evaluateOperand_eq modest.functions fuel
    fun _ => operand.within_univ

theorem Modest.acts {action next : Action σ} (modest : e.Modest)
    (acting : action.Throughout Action.Modest Set.univ) (acts : e.Acts action next after) :
    next.Throughout Action.Modest Set.univ ∧ after.Modest :=
  Conducts.acts modest (fun _ _ => id) acting acts

theorem perform_withLimit (e : Engine σ) (limit : Option Nat) (operation : Operation σ) :
    (e.withLimit limit).perform operation = (e.perform operation).withLimit limit := by
  cases operation <;> rfl

theorem record_withLimit (e : Engine σ) (limit : Option Nat) (instruction : Instruction) :
    (e.withLimit limit).record instruction = (e.record instruction).withLimit limit := by
  cases traced : e.config.traceEnabled <;> simp [record, withLimit, traced]

theorem act_withLimit (limit : Option Nat) : ∀ {fuel : Nat} {action : Action σ} {e : Engine σ},
    e.Modest → action.Throughout Action.Modest Set.univ →
      act fuel action (e.withLimit limit) =
        (act fuel action e).map (Prod.map id (withLimit limit))
  | 0, _, _, _, _ => by simp [act]
  | fuel + 1, action, e, modest, acting => by
    cases action with
    | done => simp [act]
    | perform operation next =>
      have goesOn := modest.acts acting (.perform operation next)
      rw [act, act, perform_withLimit, act_withLimit limit goesOn.2 goesOn.1]
    | react reaction next =>
      rw [act, act]
      cases ran : reaction.run fuel e.world with
      | none => simp [withLimit, ran]
      | some world =>
        have goesOn := modest.acts acting (.react ran)
        simp only [withLimit, ran]
        exact act_withLimit limit goesOn.2 goesOn.1
    | consult next =>
      rw [act, act]
      exact act_withLimit limit modest (acting.2 e.world.host)
    | observe next =>
      rw [act, act]
      exact act_withLimit limit modest (acting.2 e.view)
    | records next =>
      rw [act, act]
      exact act_withLimit limit modest (acting.2 e.trace)
    | settings next => exact acting.here.elim
    | ask request next => exact acting.here.elim
    | evaluate operand embedded next =>
      rw [act, act, modest.evaluateOperand_withLimit]
      cases evaluated : e.evaluateOperand fuel operand embedded with
      | none => simp
      | some pair =>
        have goesOn := modest.acts acting (.evaluate evaluated)
        exact act_withLimit limit goesOn.2 goesOn.1

theorem execute_withLimit (limit : Option Nat) {fuel : Nat} {instruction : Instruction}
    (modest : e.Modest) :
    execute fuel instruction (e.withLimit limit) =
      (execute fuel instruction e).map (Prod.map id (withLimit limit)) := by
  cases fuel with
  | zero => simp [execute]
  | succ fuel =>
    cases instruction with
    | setStatic name operand embedded =>
      rw [execute, execute, modest.evaluateOperand_withLimit]
      rcases e.evaluateOperand fuel operand embedded with _ | ⟨failure | value, world⟩ <;> rfl
    | setReactive name operand embedded =>
      have world : (e.withLimit limit).world = e.world := rfl
      rw [execute, execute, modest.evaluateOperand_withLimit, world]
      cases e.world.reactives.contains name with
      | false => rfl
      | true =>
        rcases e.evaluateOperand fuel operand embedded with _ | ⟨failure | value, middle⟩
        · rfl
        · rfl
        · cases assigned : middle.assign fuel name value with
          | none => simp [assigned]
          | some world =>
            simp only [assigned]
            rfl
    | goto target | call target => rfl
    | condGoto target operand embedded =>
      rw [execute, execute, modest.evaluateOperand_withLimit]
      rcases e.evaluateOperand fuel operand embedded with _ | ⟨result, world⟩
      · rfl
      · rcases leads : result.bind jumpTarget with failure | position <;>
          simp [leads, steer, withLimit]
    | ret =>
      rcases back : e.control.ret? with _ | control <;> simp [execute, withLimit, back]
    | callComponent name args =>
      rcases found : e.components.find? name with _ | component
      · simp [execute, withLimit, found]
      · have entered : (e.steer Control.moveOn).Modest := modest.congr rfl rfl
        have acting := modest.components name args trivial component found
        have acted := @act_withLimit _ limit fuel _ _ entered acting
        have same : (e.withLimit limit).steer Control.moveOn =
          (e.steer Control.moveOn).withLimit limit := rfl
        have foundAgain : (e.withLimit limit).components.find? name = some component := found
        rw [execute, execute, found, foundAgain]
        simp only [same, acted]
        rcases act fuel (component args) (e.steer Control.moveOn) with
          _ | ⟨failure | pacing, ended⟩ <;> rfl

theorem Executes.modest {instruction : Instruction} {result : Except Failure Pacing}
    (executes : e.Executes instruction result after) (modest : e.Modest) : after.Modest := by
  obtain ⟨-, -, fuel, ran⟩ := executes
  have settled : e.settled.Modest := modest.congr rfl rfl
  have recorded := settled.record instruction
  cases fuel with
  | zero => simp [execute] at ran
  | succ fuel =>
    cases executed_of_execute ran with
    | @interrupted name args _ _ _ found acted | @performed name args _ _ _ found acted =>
      have entered : ((e.settled.record (.callComponent name args)).steer Control.moveOn).Modest :=
        recorded.congr rfl rfl
      have acted := entered.act (fun _ _ => id) (fun _ _ => id)
        (recorded.components name args trivial _ found) acted
      exact acted.congr rfl rfl
    | _ => exact recorded.congr rfl rfl

theorem Executes.withLimit {instruction : Instruction} {result : Except Failure Pacing}
    (executes : e.Executes instruction result after) (modest : e.Modest) (limit : Option Nat) :
    (e.withLimit limit).Executes instruction result (after.withLimit limit) := by
  obtain ⟨unlocked, next, fuel, ran⟩ := executes
  have settled : e.settled.Modest := modest.congr rfl rfl
  have same : (e.withLimit limit).settled = e.settled.withLimit limit := rfl
  refine ⟨unlocked, next, fuel, ?_⟩
  rw [same, record_withLimit, execute_withLimit limit (settled.record instruction), ran]
  rfl

/-! ## Courses with and without a limit -/

/-- A limit, if there is one, allows for some number of instructions. -/
def Allows (limit : Option Nat) (count : Nat) : Prop := ∀ bound ∈ limit, count ≤ bound

theorem reachedLimit?_eq_none_iff {config : Config} {executed : Nat} :
    config.reachedLimit? executed = none ↔ Allows config.maxBurst (executed + 1) := by
  simp only [Config.reachedLimit?, Allows, Option.filter_eq_none_iff, decide_eq_true_eq, not_le]
  exact Iff.rfl

/-- How many instructions a step has begun: those that it has completed, and the one that failed. -/
def begun (completed : List (Engine σ)) : Except Failure StepOutcome → Nat
  | .ok _ => completed.length
  | .error _ => completed.length + 1

theorem begun_cons (middle : Engine σ) (completed : List (Engine σ))
    (result : Except Failure StepOutcome) :
    begun (middle :: completed) result = begun completed result + 1 := by
  cases result <;> rfl

theorem begun_map (f : Engine σ → Engine σ) (completed : List (Engine σ))
    (result : Except Failure StepOutcome) :
    begun (completed.map f) result = begun completed result := by
  cases result <;> simp [begun]

/-- A step is cut off after as many instructions as the limit says. -/
structure CutOff (executed : Nat) (e : Engine σ) (result : Except Failure StepOutcome)
    (after : Engine σ) : Prop where
  limit : e.config.maxBurst = some executed
  failure : result = .error (Failure.within ⟨.burstExceeded executed, none⟩
    { stack := e.settled.control.frames })
  left : after = e.settled

theorem Course.cutOff_or_withLimit {mode : StepMode} {executed : Nat}
    {completed : List (Engine σ)} {result : Except Failure StepOutcome}
    (course : Course mode executed e completed result after) (modest : e.Modest)
    (allowed : Allows e.config.maxBurst executed) :
    CutOff (executed + completed.length) (completed.getLastD e) result after ∨
      Allows e.config.maxBurst (executed + begun completed result) ∧
      ∀ limit, Allows limit (executed + begun completed result) →
        Course mode executed (e.withLimit limit) (completed.map (withLimit limit)) result
          (after.withLimit limit) := by
  induction course with
  | ended stop =>
    cases stop with
    | deferred locked => exact .inr ⟨allowed, fun _ _ => .ended (.deferred locked)⟩
    | halted unlocked finished =>
      exact .inr ⟨allowed, fun _ _ => .ended (.halted unlocked finished)⟩
    | exceeded unlocked next reached =>
      obtain ⟨limited, far⟩ := Option.filter_eq_some_iff.mp reached
      cases Nat.le_antisymm (of_decide_eq_true far) (allowed _ limited)
      exact .inl ⟨limited, rfl, rfl⟩
    | failed within executes =>
      refine .inr ⟨reachedLimit?_eq_none_iff.mp within, fun limit allows => ?_⟩
      exact .ended
        (.failed (reachedLimit?_eq_none_iff.mpr allows) (executes.withLimit modest limit))
  | stepped within executes =>
    refine .inr ⟨reachedLimit?_eq_none_iff.mp within, fun limit allows => ?_⟩
    exact .stepped (reachedLimit?_eq_none_iff.mpr allows) (executes.withLimit modest limit)
  | paused within executes =>
    refine .inr ⟨reachedLimit?_eq_none_iff.mp within, fun limit allows => ?_⟩
    exact .paused (reachedLimit?_eq_none_iff.mpr allows) (executes.withLimit modest limit)
  | @onward executed e middle after instruction completed result within executes rest ih =>
    have kept : middle.config = e.config := Completes.config_eq ⟨_, _, executes⟩
    have count : executed + begun (middle :: completed) result =
        executed + 1 + begun completed result := by
      rw [begun_cons]
      omega
    have length : executed + (middle :: completed).length = executed + 1 + completed.length := by
      rw [List.length_cons]
      omega
    rw [count, length, List.getLastD_cons]
    have next := ih (executes.modest modest) (kept ▸ reachedLimit?_eq_none_iff.mp within)
    rw [kept] at next
    refine next.imp_right fun ⟨allowed, transfers⟩ => ⟨allowed, fun limit allows => ?_⟩
    refine .onward ?_ (executes.withLimit modest limit) (transfers limit allows)
    refine reachedLimit?_eq_none_iff.mpr fun bound mem => ?_
    have far := allows bound mem
    omega

/-! ## Where the host code returns -/

/-- The host code returns that an instruction calls for: the functions of its operand, the callbacks
of the variable that it sets, the component that it calls. -/
def HostReturns (e : Engine σ) : Instruction → Prop
  | .setStatic _ operand embedded | .condGoto _ operand embedded =>
      ∃ fuel outcome, e.evaluateOperand fuel operand embedded = some outcome
  | .setReactive name operand embedded =>
      ∃ fuel result world, e.evaluateOperand fuel operand embedded = some (result, world) ∧
        ∀ value, result = .ok value → ∃ more after, world.assign more name value = some after
  | .callComponent name args =>
      ∀ component, e.components.find? name = some component →
        ∃ fuel outcome, act fuel (component args) (e.steer Control.moveOn) = some outcome
  | .goto _ | .call _ | .ret => True

/-- The host code returns wherever the engine comes by completing instructions. -/
def Responsive (e : Engine σ) : Prop :=
  ∀ later, Relation.ReflTransGen Completes e later →
    ∀ instruction, later.settled.control.instruction? = some instruction →
      (later.settled.record instruction).HostReturns instruction

theorem exists_execute {instruction : Instruction} (returns : e.HostReturns instruction) :
    ∃ fuel outcome, execute fuel instruction e = some outcome := by
  cases instruction with
  | goto target | call target => exact ⟨1, _, rfl⟩
  | ret =>
    cases back : e.control.ret? with
    | none => exact ⟨1, _, by simp only [execute, back]; rfl⟩
    | some control => exact ⟨1, _, by simp only [execute, back]; rfl⟩
  | setStatic name operand embedded =>
    obtain ⟨fuel, ⟨failure | value, world⟩, evaluated⟩ := returns
    · exact ⟨fuel + 1, _, by simp only [execute, evaluated]; rfl⟩
    · exact ⟨fuel + 1, _, by simp only [execute, evaluated]; rfl⟩
  | condGoto target operand embedded =>
    obtain ⟨fuel, ⟨result, world⟩, evaluated⟩ := returns
    rcases leads : result.bind jumpTarget with failure | position
    · exact ⟨fuel + 1, _, by simp only [execute, evaluated, leads]; rfl⟩
    · exact ⟨fuel + 1, _, by simp only [execute, evaluated, leads]; rfl⟩
  | setReactive name operand embedded =>
    obtain ⟨fuel, result, world, evaluated, assigns⟩ := returns
    cases declared : e.world.reactives.contains name with
    | false => exact ⟨1, _, by simp only [execute, declared]; rfl⟩
    | true =>
      cases result with
      | error failure =>
        exact ⟨fuel + 1, _, by simp only [execute, declared, evaluated, if_pos]; rfl⟩
      | ok value =>
        obtain ⟨more, after, assigned⟩ := assigns value rfl
        have evaluated := eq_some_of_fuel_le (e.evaluateOperand · operand embedded)
          evaluateOperand_succ (Nat.le_max_left fuel more) evaluated
        have assigned := eq_some_of_fuel_le (world.assign · name value) World.assign_succ
          (Nat.le_max_right fuel more) assigned
        exact ⟨max fuel more + 1, _, by
          simp only [execute, declared, evaluated, assigned, if_pos]; rfl⟩
  | callComponent name args =>
    cases found : e.components.find? name with
    | none => exact ⟨1, _, by simp only [execute, found]; rfl⟩
    | some component =>
      obtain ⟨fuel, ⟨failure | pacing, after⟩, acted⟩ := returns component found
      · exact ⟨fuel + 1, _, by simp only [execute, found, acted]; rfl⟩
      · exact ⟨fuel + 1, _, by simp only [execute, found, acted]; rfl⟩

/-- A step is over, or it completes another instruction. -/
theorem Responsive.stops_or_executes (responsive : e.Responsive) (mode : StepMode)
    (executed : Nat) :
    (∃ result after, Stop mode executed e result after) ∨
      e.config.reachedLimit? executed = none ∧
        ∃ instruction pacing after, e.Executes instruction (.ok pacing) after := by
  cases locked : e.control.locked with
  | true => exact .inl ⟨_, _, .deferred locked⟩
  | false =>
    cases next : e.settled.control.instruction? with
    | none => exact .inl ⟨_, _, .halted locked next⟩
    | some instruction =>
      cases within : e.config.reachedLimit? executed with
      | some limit => exact .inl ⟨_, _, .exceeded locked next within⟩
      | none =>
        obtain ⟨fuel, ⟨failure | pacing, after⟩, ran⟩ :=
          exists_execute (responsive e .refl instruction next)
        · exact .inl ⟨_, _, .failed within ⟨locked, next, fuel, ran⟩⟩
        · exact .inr ⟨rfl, instruction, pacing, after, locked, next, fuel, ran⟩

theorem Responsive.completes (responsive : e.Responsive) (completes : Completes e after) :
    after.Responsive := by
  intro later path
  exact responsive later (path.head completes)

/-- With a limit a step comes to an end. The induction is on what the limit leaves. -/
theorem Responsive.exists_course {executed left : Nat} (responsive : e.Responsive)
    (limited : e.config.maxBurst = some (executed + left)) :
    ∃ completed result after, Course .burst executed e completed result after := by
  induction left generalizing executed e with
  | zero =>
    rcases responsive.stops_or_executes .burst executed with ⟨_, _, stop⟩ | ⟨within, -⟩
    · exact ⟨_, _, _, .ended stop⟩
    · have far := reachedLimit?_eq_none_iff.mp within executed limited
      omega
  | succ left ih =>
    rcases responsive.stops_or_executes .burst executed with
      ⟨_, _, stop⟩ | ⟨within, instruction, pacing, middle, executes⟩
    · exact ⟨_, _, _, .ended stop⟩
    · have completes : Completes e middle := ⟨_, _, executes⟩
      cases pacing with
      | pause => exact ⟨_, _, _, .paused within executes⟩
      | proceed =>
        have kept : middle.config.maxBurst = some (executed + 1 + left) := by
          rw [completes.config_eq, limited, Nat.add_right_comm, Nat.add_assoc]
        obtain ⟨completed, result, after, rest⟩ := ih (responsive.completes completes) kept
        exact ⟨_, _, _, .onward within executes rest⟩

/-! ## What the budget does -/

/-- A step is over of its own accord, having begun no more than some number of instructions. -/
def StopsWithin (count : Nat) (e : Engine σ) (result : Except Failure StepOutcome)
    (after : Engine σ) : Prop :=
  ∃ completed, Course .burst 0 e completed result after ∧ begun completed result ≤ count

theorem Course.answersStep {completed : List (Engine σ)} {result : Except Failure StepOutcome}
    (course : Course .burst 0 e completed result after) :
    e.Answers .step (result.map some) after := by
  obtain ⟨fuel, advanced⟩ := course.advance
  exact ⟨fuel + 1, by simp [answer, advanced]⟩

theorem withLimit_eq_self {limit : Option Nat} (limited : e.config.maxBurst = limit) :
    e.withLimit limit = e := by
  subst limited
  rfl

theorem allows_zero (limit : Option Nat) : Allows limit 0 := fun _ _ => Nat.zero_le _

theorem allows_some {count bound : Nat} (le : count ≤ bound) : Allows (some bound) count := by
  rintro _ ⟨⟩
  exact le

section

variable {n : Nat} {result : Except Failure StepOutcome}

theorem answers_of_stopsWithin (limited : e.config.maxBurst = some n) (modest : e.Modest)
    (stops : StopsWithin n (e.withLimit none) result after) :
    (e.withLimit none).Answers .step (result.map some) after ∧
      e.Answers .step (result.map some) (after.withLimit (some n)) := by
  obtain ⟨completed, course, short⟩ := stops
  refine ⟨course.answersStep, ?_⟩
  have modest : (e.withLimit none).Modest := modest.congr rfl rfl
  rcases course.cutOff_or_withLimit modest (allows_zero _) with ⟨limit, -, -⟩ | ⟨-, transfers⟩
  · rw [config_getLastD course.isChain] at limit
    cases limit
  · have same : (e.withLimit none).withLimit (some n) = e := withLimit_eq_self limited
    have transferred := transfers (some n) (allows_some (by rwa [Nat.zero_add]))
    rw [same] at transferred
    exact transferred.answersStep

/-- What would go on beyond the limit without it is cut off there. -/
theorem cutOff_of_goesOn (limited : e.config.maxBurst = some n) (modest : e.Modest)
    (responsive : e.Responsive)
    (goesOn : ¬ ∃ result after, StopsWithin n (e.withLimit none) result after) :
    ∃ completed result after, Course .burst 0 e completed result after ∧
      completed.length = n ∧ CutOff n (completed.getLastD e) result after := by
  obtain ⟨completed, result, after, course⟩ :=
    @Responsive.exists_course σ e 0 n responsive (by rw [limited, Nat.zero_add])
  refine ⟨completed, result, after, course, ?_⟩
  rcases course.cutOff_or_withLimit modest (allows_zero _) with cut | ⟨short, transfers⟩
  · have limit := cut.limit
    rw [config_getLastD course.isChain, limited, Nat.zero_add] at limit
    cases limit
    rw [Nat.zero_add] at cut
    exact ⟨rfl, cut⟩
  · refine absurd ⟨_, _, _, transfers none nofun, ?_⟩ goesOn
    have short := short n limited
    rwa [begun_map, ← Nat.zero_add (begun _ _)]

/-- Single steps complete what a step completes that has a limit. -/
theorem Course.stepsTo {completed : List (Engine σ)} (limited : e.config.maxBurst = some n)
    (course : Course .burst 0 e completed result after) (length : completed.length ≤ n) :
    List.IsChain StepsTo (e :: completed) := by
  cases completed with
  | nil => exact List.isChain_singleton _
  | cons middle completed =>
    refine stepsTo_of_isChain (reachedLimit?_eq_none_iff.mpr ?_) course.isChain
    rw [limited]
    exact allows_some (Nat.le_trans (by simp) length)

theorem Course.not_cutOff_of_single {completed : List (Engine σ)}
    (limited : e.config.maxBurst = some n) (atLeastOne : 1 ≤ n)
    (course : Course .single 0 e completed result after) :
    ¬ CutOff (0 + completed.length) (completed.getLastD e) result after := by
  rintro ⟨limit, failed, -⟩
  cases course with
  | ended =>
    cases limited.symm.trans limit
    contradiction
  | stepped => cases failed

/-- A single step that the limit allows for fails only if its instruction does. -/
theorem Course.raised_of_single {completed : List (Engine σ)} {failure : Failure}
    (within : e.config.reachedLimit? 0 = none)
    (course : Course .single 0 e completed (.error failure) after) :
    ∃ instruction raised, e.Executes instruction (.error raised) after ∧
      failure = raised.within
        (after.control.contextOf instruction e.settled.control.position) := by
  cases course with
  | ended stop =>
    cases stop with
    | exceeded _ _ reached => cases within.symm.trans reached
    | failed _ executes => exact ⟨_, _, executes, rfl⟩

end

/-- A limit cuts steps off and changes nothing else. A step with a limit comes to an end. What stops
without a limit before it would go beyond that does the same with it. Otherwise the step is cut off
after as many instructions as the limit says, where as many single steps lead, without the finished
sub-programs. A limit of at least one instruction makes no difference to single steps: these fail
only if the instruction itself does. -/
theorem budget_only_cuts_off {n : Nat} (limited : e.config.maxBurst = some n) (modest : e.Modest)
    (responsive : e.Responsive) :
    (∃ result after, e.Answers .step result after) ∧
    (∀ result after, StopsWithin n (e.withLimit none) result after →
      (e.withLimit none).Answers .step (result.map some) after ∧
        e.Answers .step (result.map some) (after.withLimit (some n))) ∧
    ((¬ ∃ result after, StopsWithin n (e.withLimit none) result after) →
      ∃ completed last failure, completed.length = n ∧ completed.getLastD e = last ∧
        List.IsChain StepsTo (e :: completed) ∧
        failure = Failure.within ⟨.burstExceeded n, none⟩ { stack := last.settled.control.frames } ∧
        Course .burst 0 e completed (.error failure) last.settled ∧
        e.Answers .step (.error failure) last.settled) ∧
    (1 ≤ n → ∀ result after, e.Answers .stepSingle result after →
      (e.withLimit none).Answers .stepSingle result (after.withLimit none) ∧
        ∀ failure, result = .error failure → ∃ instruction raised,
          e.Executes instruction (.error raised) after ∧
          failure = raised.within
            (after.control.contextOf instruction e.settled.control.position)) := by
  refine ⟨?_, fun result after => answers_of_stopsWithin limited modest, ?_, ?_⟩
  · obtain ⟨completed, result, after, course⟩ :=
      @Responsive.exists_course σ e 0 n responsive (by rw [limited, Nat.zero_add])
    exact ⟨_, _, course.answersStep⟩
  · intro goesOn
    obtain ⟨completed, _, _, course, length, -, rfl, rfl⟩ :=
      cutOff_of_goesOn limited modest responsive goesOn
    exact ⟨completed, _, _, length, rfl, course.stepsTo limited length.le, rfl, course,
      course.answersStep⟩
  · intro atLeastOne result after ⟨fuel, answered⟩
    obtain ⟨completed, course⟩ := requestCourse_of_answer answered
    cases course with
    | @stepSingle _ _ _ result course =>
      have uncut := course.not_cutOff_of_single limited atLeastOne
      obtain ⟨-, transfers⟩ :=
        (course.cutOff_or_withLimit modest (allows_zero _)).resolve_left uncut
      refine ⟨(transfers none nofun).answers, ?_⟩
      intro failure failed
      cases result with
      | ok outcome => cases failed
      | error raised =>
        cases failed
        refine course.raised_of_single (reachedLimit?_eq_none_iff.mpr ?_)
        rw [limited]
        exact allows_some atLeastOne

/-- A component that sets a variable. -/
def leaveMark : Component Unit := fun _ =>
  .perform (.setStatic "marked" (.bool true)) (.done (.ok .proceed))

/-- An engine whose program ends just where the limit is reached. -/
def atLastMark : Engine Unit :=
  ((Engine.new { maxBurst := some 1 } ()).perform (.register "mark" leaveMark)).perform
    (.load [.callComponent "mark" .empty])

/-- The engine after its only instruction. -/
def afterLastMark : Engine Unit :=
  (atLastMark.perform (.setStatic "marked" (.bool true))).steer Control.moveOn

theorem executes_atLastMark (limit : Option Nat) :
    (atLastMark.withLimit limit).Executes (.callComponent "mark" .empty) (.ok .proceed)
      (afterLastMark.withLimit limit) := ⟨rfl, rfl, 3, rfl⟩

theorem responsive_atLastMark : atLastMark.Responsive := by
  intro later path instruction next
  rcases path.cases_head with rfl | ⟨middle, ⟨_, _, -, first, fuel, ran⟩, path⟩
  · cases next
    intro component found
    cases found
    exact ⟨2, _, rfl⟩
  · -- the one instruction leads to the end of the program
    cases first
    have known : execute 3 (.callComponent "mark" .empty)
      (atLastMark.settled.record (.callComponent "mark" .empty)) =
        some (.ok .proceed, afterLastMark) := rfl
    cases eq_of_fuel (execute · _ _) execute_succ known ran
    rcases path.cases_head with rfl | ⟨_, ⟨_, _, -, beyond, -⟩, -⟩
    · cases next
    · cases beyond

theorem budget_only_cuts_off_atLastMark :
    ∃ after, atLastMark.config.maxBurst = some 1 ∧ atLastMark.Modest ∧ atLastMark.Responsive ∧
      StopsWithin 1 (atLastMark.withLimit none) (.ok .halted) after ∧
      atLastMark.Answers .step (.ok (some .halted)) (after.withLimit (some 1)) := by
  have modest : atLastMark.Modest := by
    refine ⟨?_, nofun⟩
    intro name args _ component found
    change (NameTable.empty.insert "mark" leaveMark).find? name = some component at found
    rw [NameTable.find?_insert] at found
    split at found
    · cases found
      exact ⟨trivial, trivial, trivial⟩
    · cases found
  have stops : StopsWithin 1 (atLastMark.withLimit none) (.ok .halted)
      (afterLastMark.withLimit none) :=
    ⟨[_], .onward rfl (executes_atLastMark none) (.ended (.halted rfl rfl)), Nat.le_refl 1⟩
  obtain ⟨-, same, -⟩ := budget_only_cuts_off rfl modest responsive_atLastMark
  exact ⟨_, rfl, modest, responsive_atLastMark, stops, (same _ _ stops).2⟩

end Engine

end DialogueEngine
