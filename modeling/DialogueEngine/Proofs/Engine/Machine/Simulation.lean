import DialogueEngine.Proofs.Engine.Fuel
import DialogueEngine.Proofs.Engine.Machine.Basic
import DialogueEngine.Proofs.Engine.Transition

/-!
# The machine and the functions

The machine comes to the end of what the host does exactly if the functions that recurse by fuel
come to a result, and it is the same.
-/

namespace DialogueEngine

namespace Engine

variable {σ : Type}

theorem runThrough_eq {fuel : Nat} {e middle : Engine σ} {result : Except Failure StepOutcome}
    (advanced : advance fuel .burst 0 e = some (result, middle)) :
    runThrough (fuel + 1) e =
      if StepOutcome.runsOn result then runThrough fuel middle else some (result, middle) := by
  rw [runThrough, advanced]
  rcases result with failure | (_ | _ | _ | _) <;> rfl

theorem execute_called {fuel : Nat} {instruction : Instruction} {action : Action σ} {e : Engine σ}
    (calls : e.calledAction? instruction = some action) :
    execute (fuel + 1) instruction e =
      match act fuel action (e.steer Control.moveOn) with
      | some (.error failure, after) => some (.error failure, { after with control := e.control })
      | result => result := by
  cases instruction with
  | callComponent name args =>
    obtain ⟨component, found, rfl⟩ := Option.map_eq_some_iff.mp calls
    rcases ran : act fuel (component args) (e.steer Control.moveOn) with
      _ | ⟨failure | pacing, after⟩ <;> simp [execute, found, ran]
  | _ => cases calls

/-! ## What the functions do, the machine does -/

mutual

theorem ticks_act : ∀ {fuel : Nat} {action : Action σ} {e after : Engine σ}
    {result : Except Failure Pacing} (frames : List (Frame σ)),
    act fuel action e = some (result, after) →
      Ticks ⟨e, .act action, frames⟩ ⟨after, .act (.done result), frames⟩
  | 0, _, _, _, _, _, h => by simp [act] at h
  | fuel + 1, action, e, after, result, frames, h => by
    cases action with
    | done value =>
      rw [act] at h
      cases h
      exact .refl
    | perform | consult | observe | settings | records =>
      rw [act] at h
      exact .head (.act (by constructor)) (ticks_act frames h)
    | react reaction next =>
      rw [act] at h
      cases reacted : reaction.run fuel e.world with
      | none => simp [reacted] at h
      | some world =>
        simp only [reacted] at h
        exact .head (.act (.react reacted)) (ticks_act frames h)
    | evaluate operand embedded next =>
      rw [act] at h
      cases evaluated : e.evaluateOperand fuel operand embedded with
      | none => simp [evaluated] at h
      | some pair =>
        simp only [evaluated] at h
        exact .head (.act (.evaluate evaluated)) (ticks_act frames h)
    | ask request next =>
      rw [act] at h
      cases answered : answer fuel request e with
      | none => simp [answered] at h
      | some pair =>
        simp only [answered] at h
        exact (ticks_answer next frames answered).trans (ticks_act frames h)

theorem ticks_execute : ∀ {fuel : Nat} {instruction : Instruction} {e after : Engine σ}
    {result : Except Failure Pacing} {mode : StepMode} {executed : Nat} (frames : List (Frame σ)),
    e.Begins executed instruction →
    execute fuel instruction (e.record instruction) = some (result, after) →
      Ticks ⟨e, .advance mode executed, frames⟩
        ⟨after, .executed result, .step mode executed instruction e.control.position :: frames⟩
  | 0, _, _, _, _, _, _, _, _, h => by simp [execute] at h
  | fuel + 1, instruction, e, after, result, mode, executed, frames, begins, h => by
    cases calls : e.calledAction? instruction with
    | none => exact .single (.execute begins calls h)
    | some action =>
      rw [execute_called ((calledAction?_record e instruction).trans calls)] at h
      refine .head (.enter begins calls) ?_
      cases acted : act fuel action ((e.record instruction).steer Control.moveOn) with
      | none => simp [acted] at h
      | some pair =>
        obtain ⟨outcome, ended⟩ := pair
        simp only [acted] at h
        refine (ticks_act _ acted).trans ?_
        cases outcome with
        | error failure =>
          cases h
          rw [control_record]
          exact .single (.rollBack ended failure e.control _)
        | ok pacing =>
          cases h
          exact .single (.leave _ pacing e.control _)

theorem ticks_advance : ∀ {fuel : Nat} {mode : StepMode} {executed : Nat} {e after : Engine σ}
    {result : Except Failure StepOutcome} (frames : List (Frame σ)),
    advance fuel mode executed e = some (result, after) →
      Ticks ⟨e, .advance mode executed, frames⟩ ⟨after, .stepped result, frames⟩
  | 0, _, _, _, _, _, _, h => by simp [advance] at h
  | fuel + 1, mode, executed, e, after, result, frames, h => by
    cases advanced_of_advance h with
    | deferred locked => exact .single (.defer locked)
    | halted unlocked finished last => exact .single (.halt unlocked finished last)
    | resumed unlocked finished resume rest =>
      exact .head (.resume unlocked finished resume) (ticks_advance frames rest)
    | exceeded unlocked next reached => exact .single (.exceed unlocked next reached)
    | failed unlocked next within ran =>
      exact (ticks_execute frames ⟨unlocked, next, within⟩ ran).tail (.fail ..)
    | stepped single unlocked next within ran =>
      subst single
      exact (ticks_execute frames ⟨unlocked, next, within⟩ ran).tail (.stop ..)
    | paused burst unlocked next within ran =>
      subst burst
      exact (ticks_execute frames ⟨unlocked, next, within⟩ ran).tail (.pause ..)
    | onward burst unlocked next within ran rest =>
      subst burst
      refine .trans (ticks_execute frames ⟨unlocked, next, within⟩ ran) ?_
      exact .head (.goOn ..) (ticks_advance frames rest)

theorem ticks_runThrough : ∀ {fuel : Nat} {e after : Engine σ}
    {result : Except Failure StepOutcome} (frames : List (Frame σ)),
    runThrough fuel e = some (result, after) →
      Ticks ⟨e, .advance .burst 0, .run :: frames⟩ ⟨after, .stepped result, frames⟩
  | 0, _, _, _, _, h => by simp [runThrough] at h
  | fuel + 1, e, after, result, frames, h => by
    cases advanced : advance fuel .burst 0 e with
    | none => simp [runThrough, advanced] at h
    | some pair =>
      obtain ⟨outcome, middle⟩ := pair
      rw [runThrough_eq advanced] at h
      refine (ticks_advance _ advanced).trans ?_
      by_cases runsOn : StepOutcome.runsOn outcome = true
      · rw [if_pos runsOn] at h
        exact .head (.runOn runsOn) (ticks_runThrough frames h)
      · rw [if_neg runsOn] at h
        cases h
        exact .single (.runOver (Bool.not_eq_true _ ▸ runsOn))

theorem ticks_answer : ∀ {fuel : Nat} {request : Request} {e after : Engine σ}
    {result : Except Failure (Option StepOutcome)}
    (next : Except Failure (Option StepOutcome) → Action σ) (frames : List (Frame σ)),
    answer fuel request e = some (result, after) →
      Ticks ⟨e, .act (.ask request next), frames⟩ ⟨after, .act (next result), frames⟩
  | 0, _, _, _, _, _, _, h => by simp [answer] at h
  | fuel + 1, request, e, after, result, next, frames, h => by
    cases request with
    | step =>
      rw [answer] at h
      obtain ⟨pair, advanced, same⟩ := Option.map_eq_some_iff.mp h
      cases same
      exact .head (.askStep e next frames) ((ticks_advance _ advanced).tail (.answer ..))
    | stepSingle =>
      rw [answer] at h
      obtain ⟨pair, advanced, same⟩ := Option.map_eq_some_iff.mp h
      cases same
      exact .head (.askSingle e next frames) ((ticks_advance _ advanced).tail (.answer ..))
    | run =>
      rw [answer] at h
      obtain ⟨pair, ran, same⟩ := Option.map_eq_some_iff.mp h
      cases same
      exact .head (.askRun e next frames) ((ticks_runThrough _ ran).tail (.answer ..))
    | unlock =>
      rw [answer] at h
      cases pending : e.control.pending with
      | none =>
        simp only [pending] at h
        cases h
        exact .single (.release next frames pending)
      | some mode =>
        simp only [pending] at h
        obtain ⟨pair, advanced, same⟩ := Option.map_eq_some_iff.mp h
        cases same
        exact .head (.makeUp next frames pending) ((ticks_advance _ advanced).tail (.answer ..))

end

/-! ## What the machine does, the functions do -/

/-- Something is over, and its result is handed to the innermost frame. -/
inductive Signal (σ : Type) where
  | acted (result : Except Failure Pacing)
  | executed (result : Except Failure Pacing)
  | stepped (result : Except Failure StepOutcome)

/-- What the functions make of a result that is handed to a stack of frames: all that waits for it
goes on, and in the end the host is done. -/
def Settles (final : Except Failure Pacing × Engine σ) :
    List (Frame σ) → Signal σ → Engine σ → Prop
  | [], .acted result, e => (result, e) = final
  | .component _ :: frames, .acted (.ok pacing), e =>
      Settles final frames (.executed (.ok pacing)) e
  | .component before :: frames, .acted (.error failure), e =>
      Settles final frames (.executed (.error failure)) { e with control := before }
  | .step _ _ instruction position :: frames, .executed (.error failure), e =>
      Settles final frames
        (.stepped (.error (failure.within (e.control.contextOf instruction position)))) e
  | .step .single _ _ _ :: frames, .executed (.ok _), e =>
      Settles final frames (.stepped (.ok .stepped)) e
  | .step .burst _ _ _ :: frames, .executed (.ok .pause), e =>
      Settles final frames (.stepped (.ok .paused)) e
  | .step .burst executed _ _ :: frames, .executed (.ok .proceed), e =>
      ∃ fuel result after, advance fuel .burst (executed + 1) e = some (result, after) ∧
        Settles final frames (.stepped result) after
  | .run :: frames, .stepped result, e =>
      if StepOutcome.runsOn result then
        ∃ fuel result after, runThrough fuel e = some (result, after) ∧
          Settles final frames (.stepped result) after
      else Settles final frames (.stepped result) e
  | .request next :: frames, .stepped result, e =>
      ∃ fuel result' after, act fuel (next (result.map some)) e = some (result', after) ∧
        Settles final frames (.acted result') after
  | _, _, _ => False

/-- What the functions make of a situation. -/
def Ends (final : Except Failure Pacing × Engine σ) : Situation σ → Prop
  | ⟨e, .act action, frames⟩ =>
      ∃ fuel result after, act fuel action e = some (result, after) ∧
        Settles final frames (.acted result) after
  | ⟨e, .advance mode executed, frames⟩ =>
      ∃ fuel result after, advance fuel mode executed e = some (result, after) ∧
        Settles final frames (.stepped result) after
  | ⟨e, .executed result, frames⟩ => Settles final frames (.executed result) e
  | ⟨e, .stepped result, frames⟩ => Settles final frames (.stepped result) e

theorem act_of_acts {fuel : Nat} {e middle : Engine σ} {action next : Action σ}
    {result : Except Failure Pacing × Engine σ} (acts : e.Acts action next middle)
    (acted : act fuel next middle = some result) : ∃ more, act more action e = some result := by
  cases acts with
  | perform | consult | observe | settings | records => exact ⟨fuel + 1, acted⟩
  | @react more reaction _ world ran =>
    refine ⟨max fuel more + 1, ?_⟩
    rw [act,
      eq_some_of_fuel_le (reaction.run · e.world) Reaction.run_succ (Nat.le_max_right ..) ran]
    exact eq_some_of_fuel_le (act · next _) act_succ (Nat.le_max_left ..) acted
  | @evaluate more operand embedded next outcome world evaluated =>
    refine ⟨max fuel more + 1, ?_⟩
    have enough := eq_some_of_fuel_le (e.evaluateOperand · operand embedded)
      evaluateOperand_succ (Nat.le_max_right fuel more) evaluated
    rw [act, enough]
    exact eq_some_of_fuel_le (act · (next outcome) _) act_succ (Nat.le_max_left ..) acted

/-- A request is answered by the step, or the run, that it starts. -/
theorem ends_of_answer {final : Except Failure Pacing × Engine σ} {fuel more : Nat}
    {e middle after : Engine σ} {request : Request} {frames : List (Frame σ)}
    {next : Except Failure (Option StepOutcome) → Action σ}
    {result : Except Failure (Option StepOutcome)} {last : Except Failure Pacing}
    (answered : answer fuel request e = some (result, middle))
    (acted : act more (next result) middle = some (last, after))
    (settles : Settles final frames (.acted last) after) :
    Ends final ⟨e, .act (.ask request next), frames⟩ := by
  refine ⟨max fuel more + 1, last, after, ?_, settles⟩
  have enough := eq_some_of_fuel_le (answer · request e) answer_succ
    (Nat.le_max_left fuel more) answered
  rw [act, enough]
  exact eq_some_of_fuel_le (act · (next result) middle) act_succ (Nat.le_max_right ..) acted

/-- A run goes on after one of its steps, or is over with it. -/
theorem runThrough_of_settles {final : Except Failure Pacing × Engine σ} {fuel : Nat}
    {e middle : Engine σ} {result : Except Failure StepOutcome} {frames : List (Frame σ)}
    (advanced : advance fuel .burst 0 e = some (result, middle))
    (settles : Settles final (.run :: frames) (.stepped result) middle) :
    ∃ more outcome after, runThrough more e = some (outcome, after) ∧
      Settles final frames (.stepped outcome) after := by
  rw [Settles] at settles
  split at settles
  · next runsOn =>
    obtain ⟨more, outcome, after, ran, settles⟩ := settles
    refine ⟨max fuel more + 1, outcome, after, ?_, settles⟩
    rw [runThrough_eq (advance_mono (Nat.le_max_left fuel more) advanced), if_pos runsOn]
    exact eq_some_of_fuel_le (runThrough · middle) runThrough_succ (Nat.le_max_right ..) ran
  · next stops =>
    refine ⟨fuel + 1, result, middle, ?_, settles⟩
    rw [runThrough_eq advanced, if_neg stops]

/-- A step goes on after one of its instructions, or is over with it. -/
theorem ends_of_execute {final : Except Failure Pacing × Engine σ} {fuel executed : Nat}
    {mode : StepMode} {e after : Engine σ} {instruction : Instruction}
    {result : Except Failure Pacing} {frames : List (Frame σ)}
    (begins : e.Begins executed instruction)
    (ran : execute fuel instruction (e.record instruction) = some (result, after))
    (settles : Settles final (.step mode executed instruction e.control.position :: frames)
      (.executed result) after) :
    Ends final ⟨e, .advance mode executed, frames⟩ := by
  obtain ⟨unlocked, next, within⟩ := begins
  cases result with
  | error failure =>
    exact ⟨fuel + 1, _, _, by simp [advance, unlocked, next, within, ran], settles⟩
  | ok pacing =>
    cases mode with
    | single => exact ⟨fuel + 1, _, _, by simp [advance, unlocked, next, within, ran], settles⟩
    | burst =>
      cases pacing with
      | pause => exact ⟨fuel + 1, _, _, by simp [advance, unlocked, next, within, ran], settles⟩
      | proceed =>
        obtain ⟨more, outcome, last, advanced, settles⟩ := settles
        refine ⟨max fuel more + 1, outcome, last, ?_, settles⟩
        have enough := execute_mono (Nat.le_max_left fuel more) ran
        simp only [advance, unlocked, next, within, enough]
        exact advance_mono (Nat.le_max_right fuel more) advanced

/-- The functions make the same of a situation as of what it turns into. -/
theorem ends_of_tick {final : Except Failure Pacing × Engine σ} {c next : Situation σ}
    (tick : Tick c next) (ends : Ends final next) : Ends final c := by
  cases tick with
  | act acts =>
    obtain ⟨fuel, result, after, acted, settles⟩ := ends
    obtain ⟨more, acted⟩ := act_of_acts acts acted
    exact ⟨more, result, after, acted, settles⟩
  | askStep e next frames =>
    obtain ⟨fuel, result, middle, advanced, more, last, after, acted, settles⟩ := ends
    have answered : answer (fuel + 1) .step e = some (result.map some, middle) := by
      simp [answer, advanced]
    exact ends_of_answer answered acted settles
  | askSingle e next frames =>
    obtain ⟨fuel, result, middle, advanced, more, last, after, acted, settles⟩ := ends
    have answered : answer (fuel + 1) .stepSingle e = some (result.map some, middle) := by
      simp [answer, advanced]
    exact ends_of_answer answered acted settles
  | askRun e next frames =>
    obtain ⟨fuel, result, middle, advanced, settles⟩ := ends
    obtain ⟨fuel, outcome, ended, ran, more, last, after, acted, settles⟩ :=
      runThrough_of_settles advanced settles
    have answered : answer (fuel + 1) .run e = some (outcome.map some, ended) := by
      simp [answer, ran]
    exact ends_of_answer answered acted settles
  | @release e next frames idle =>
    obtain ⟨fuel, last, after, acted, settles⟩ := ends
    have answered : answer 1 .unlock e = some (.ok none, e.steer Control.unlock) := by
      simp [answer, idle]
    exact ends_of_answer answered acted settles
  | @makeUp e mode next frames pending =>
    obtain ⟨fuel, result, middle, advanced, more, last, after, acted, settles⟩ := ends
    have answered : answer (fuel + 1) .unlock e = some (result.map some, middle) := by
      simp [answer, pending, advanced]
    exact ends_of_answer answered acted settles
  | defer locked => exact ⟨1, _, _, by simp [advance, locked], ends⟩
  | halt unlocked finished last =>
    exact ⟨1, _, _, by simp [advance, unlocked, finished, last], ends⟩
  | @resume e control mode executed frames unlocked finished resume =>
    obtain ⟨fuel, result, after, advanced, settles⟩ := ends
    have resumed : advance (fuel + 1) mode executed e = some (result, after) := by
      simp [advance, unlocked, finished, resume, advanced]
    exact ⟨fuel + 1, result, after, resumed, settles⟩
  | exceed unlocked next reached =>
    exact ⟨1, _, _, by simp [advance, unlocked, next, reached], ends⟩
  | execute begins _ ran => exact ends_of_execute begins ran ends
  | @enter e instruction action mode executed frames begins calls =>
    obtain ⟨fuel, result, ended, acted, settles⟩ := ends
    have called := @execute_called σ fuel _ _ _ ((calledAction?_record e instruction).trans calls)
    rw [acted] at called
    cases result with
    | error failure =>
      rw [control_record] at called
      exact ends_of_execute begins called settles
    | ok pacing => exact ends_of_execute begins called settles
  | leave | rollBack => exact ⟨1, _, _, rfl, ends⟩
  | fail | stop | pause | goOn | answer => exact ends
  | runOn runsOn =>
    obtain ⟨fuel, result, middle, advanced, settles⟩ := ends
    exact (if_pos runsOn).mpr (runThrough_of_settles advanced settles)
  | runOver stops => exact (if_neg (Bool.eq_false_iff.mp stops)).mpr ends

/-- The machine is done with what the host does exactly when the functions are. -/
theorem ticks_iff_act {action : Action σ} {e after : Engine σ} {result : Except Failure Pacing} :
    Ticks ⟨e, .act action, []⟩ ⟨after, .act (.done result), []⟩ ↔
      ∃ fuel, act fuel action e = some (result, after) := by
  constructor
  · intro ticks
    have done : Ends (result, after) ⟨after, .act (.done result), []⟩ :=
      ⟨1, result, after, rfl, rfl⟩
    obtain ⟨fuel, result, last, acted, same⟩ :=
      ticks.head_induction_on (motive := fun c _ => Ends (result, after) c) done
        fun tick _ ends => ends_of_tick tick ends
    cases same
    exact ⟨fuel, acted⟩
  · rintro ⟨fuel, acted⟩
    exact ticks_act [] acted

end Engine

end DialogueEngine
