import DialogueEngine.Proofs.Engine.Machine.Simulation

/-!
# One way to go on

The machine never has a choice. So where it is known what it does next, all that it comes by later
comes after that.
-/

namespace DialogueEngine

variable {σ : Type}

theorem Engine.Acts.unique {e first second : Engine σ} {action next other : Action σ}
    (acts : e.Acts action next first) (others : e.Acts action other second) :
    next = other ∧ first = second := by
  cases acts with
  | perform | consult | observe | settings | records =>
    cases others
    exact ⟨rfl, rfl⟩
  | @react _ reaction _ _ ran =>
    cases others with
    | react again =>
      cases eq_of_fuel (reaction.run · e.world) Reaction.run_succ ran again
      exact ⟨rfl, rfl⟩
  | @evaluate _ operand embedded _ _ _ evaluated =>
    cases others with
    | evaluate again =>
      cases eq_of_fuel (e.evaluateOperand · operand embedded) evaluateOperand_succ evaluated again
      exact ⟨rfl, rfl⟩

/-- Only one thing can be done next. -/
theorem Tick.unique {c first second : Situation σ} (tick : Tick c first) (other : Tick c second) :
    first = second := by
  cases tick with
  | act acts =>
    cases other with
    | act others =>
      obtain ⟨rfl, rfl⟩ := acts.unique others
      rfl
    | _ => cases acts
  | askStep | askSingle | askRun | leave | rollBack =>
    cases other with
    | act acts => cases acts
    | _ => rfl
  | release _ _ idle =>
    cases other with
    | act acts => cases acts
    | release => rfl
    | makeUp _ _ pending => cases idle.symm.trans pending
  | makeUp _ _ pending =>
    cases other with
    | act acts => cases acts
    | release _ _ idle => cases idle.symm.trans pending
    | makeUp _ _ again =>
      cases pending.symm.trans again
      rfl
  | defer locked =>
    cases other with
    | defer => rfl
    | halt unlocked | resume unlocked | exceed unlocked => cases unlocked.symm.trans locked
    | execute begins | enter begins => cases begins.unlocked.symm.trans locked
  | halt unlocked finished last =>
    cases other with
    | defer locked => cases unlocked.symm.trans locked
    | halt => rfl
    | resume _ _ resume => cases last.symm.trans resume
    | exceed _ next => cases finished.symm.trans next
    | execute begins | enter begins => cases finished.symm.trans begins.next
  | resume unlocked finished resume =>
    cases other with
    | defer locked => cases unlocked.symm.trans locked
    | halt _ _ last => cases last.symm.trans resume
    | resume _ _ again =>
      cases resume.symm.trans again
      rfl
    | exceed _ next => cases finished.symm.trans next
    | execute begins | enter begins => cases finished.symm.trans begins.next
  | exceed unlocked next reached =>
    cases other with
    | defer locked => cases unlocked.symm.trans locked
    | halt _ finished | resume _ finished => cases finished.symm.trans next
    | exceed _ _ again =>
      cases reached.symm.trans again
      rfl
    | execute begins | enter begins => cases reached.symm.trans begins.within
  | @execute e _ instruction _ _ _ _ _ begins simple ran =>
    cases other with
    | defer locked => cases begins.unlocked.symm.trans locked
    | halt _ finished | resume _ finished => cases finished.symm.trans begins.next
    | exceed _ _ reached => cases reached.symm.trans begins.within
    | execute again _ ranAgain =>
      cases begins.next.symm.trans again.next
      cases eq_of_fuel (Engine.execute · instruction (e.record instruction)) Engine.execute_succ
        ran ranAgain
      rfl
    | enter again calls =>
      cases begins.next.symm.trans again.next
      cases simple.symm.trans calls
  | enter begins calls =>
    cases other with
    | defer locked => cases begins.unlocked.symm.trans locked
    | halt _ finished | resume _ finished => cases finished.symm.trans begins.next
    | exceed _ _ reached => cases reached.symm.trans begins.within
    | execute again simple =>
      cases begins.next.symm.trans again.next
      cases simple.symm.trans calls
    | enter again callsAgain =>
      cases begins.next.symm.trans again.next
      cases calls.symm.trans callsAgain
      rfl
  | fail | stop | pause | goOn | answer =>
    cases other
    rfl
  | runOn runsOn =>
    cases other with
    | runOn => rfl
    | runOver stops => cases runsOn.symm.trans stops
  | runOver stops =>
    cases other with
    | runOn runsOn => cases runsOn.symm.trans stops
    | runOver => rfl

/-- What the machine comes by is where it starts, or comes after what it does first. -/
theorem Ticks.eq_or_of_tick {c next later : Situation σ} (ticks : Ticks c later)
    (first : Tick c next) : later = c ∨ Ticks next later := by
  rcases ticks.cases_head with rfl | ⟨middle, tick, rest⟩
  · exact .inl rfl
  · cases first.unique tick
    exact .inr rest

end DialogueEngine
