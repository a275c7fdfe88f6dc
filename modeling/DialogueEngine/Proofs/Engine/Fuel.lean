import DialogueEngine.Engine.Stepping

/-!
# Fuel

Notification, evaluation and stepping recurse by fuel. A run that has ended ends the same way with
more fuel, so what an engine answers does not depend on how much of it there is.
-/

namespace DialogueEngine

variable {σ : Type}

/-- If one more unit of fuel never changes a result, then any more fuel does not. -/
theorem eq_some_of_fuel_le {α : Type} (run : Nat → Option α)
    (keeps : ∀ {fuel result}, run fuel = some result → run (fuel + 1) = some result)
    {fuel more : Nat} (le : fuel ≤ more) {result : α} (h : run fuel = some result) :
    run more = some result := by
  induction le with
  | refl => exact h
  | step _ ih => exact keeps ih

/-- Two runs that have ended have ended alike. -/
theorem eq_of_fuel {α : Type} (run : Nat → Option α)
    (keeps : ∀ {fuel result}, run fuel = some result → run (fuel + 1) = some result)
    {fuel more : Nat} {first second : α} (h : run fuel = some first) (k : run more = some second) :
    first = second := by
  have atFirst := eq_some_of_fuel_le run keeps (Nat.le_max_left fuel more) h
  have atSecond := eq_some_of_fuel_le run keeps (Nat.le_max_right fuel more) k
  exact Option.some.inj (atFirst.symm.trans atSecond)

mutual

theorem Reaction.run_succ : ∀ {fuel : Nat} {reaction : Reaction σ} {w after : World σ},
    reaction.run fuel w = some after → reaction.run (fuel + 1) w = some after
  | 0, _, _, _, h => by simp [Reaction.run] at h
  | fuel + 1, reaction, w, after, h => by
    cases reaction with
    | done => simpa only [Reaction.run] using h
    | modify f next | consult next | read name next | subscribe name callback next
    | unsubscribe subscription next =>
      rw [Reaction.run] at h ⊢
      exact Reaction.run_succ h
    | set name value next =>
      rw [Reaction.run] at h ⊢
      cases assigned : w.assign fuel name value with
      | none => simp [assigned] at h
      | some w =>
        simp only [assigned] at h
        simp only [World.assign_succ assigned]
        exact Reaction.run_succ h

theorem World.assign_succ : ∀ {fuel : Nat} {w after : World σ} {name : String} {value : Value},
    w.assign fuel name value = some after → w.assign (fuel + 1) name value = some after
  | 0, _, _, _, _, h => by simp [World.assign] at h
  | fuel + 1, w, after, name, value, h => by
    rw [World.assign] at h ⊢
    cases found : w.reactives.find? name with
    | none => simpa only [found] using h
    | some cell =>
      simp only [found] at h ⊢
      split at h
      · next same => simpa only [if_pos same] using h
      · next changed => simpa only [if_neg changed] using World.notify_succ h

theorem World.notify_succ : ∀ {fuel : Nat} {w after : World σ} {callbacks : List (Callback σ)}
    {new old : Value},
    w.notify fuel callbacks new old = some after →
      w.notify (fuel + 1) callbacks new old = some after
  | 0, _, _, _, _, _, h => by simp [World.notify] at h
  | _ + 1, _, _, [], _, _, h => by simpa only [World.notify] using h
  | fuel + 1, w, after, callback :: rest, new, old, h => by
    rw [World.notify] at h ⊢
    cases reacted : (callback new old).run fuel w with
    | none => simp [reacted] at h
    | some w =>
      simp only [reacted] at h
      simp only [Reaction.run_succ reacted]
      exact World.notify_succ h

end

namespace Engine

variable {e : Engine σ}

mutual

theorem evaluate_succ : ∀ {fuel : Nat} {operand : Operand} {w : World σ}
    {result : Except Failure Value × World σ},
    e.evaluate fuel operand w = some result → e.evaluate (fuel + 1) operand w = some result
  | 0, _, _, _, h => by simp [evaluate] at h
  | fuel + 1, operand, w, result, h => by
    cases operand with
    | literal value => simpa only [evaluate] using h
    | call name args =>
      rw [evaluate] at h ⊢
      cases found : e.functions.find? name with
      | none => simpa only [found] using h
      | some function =>
        simp only [found] at h ⊢
        exact compute_succ h

theorem compute_succ : ∀ {fuel : Nat} {computation : Computation σ} {w : World σ}
    {result : Except Failure Value × World σ},
    e.compute fuel computation w = some result → e.compute (fuel + 1) computation w = some result
  | 0, _, _, _, h => by simp [compute] at h
  | fuel + 1, computation, w, result, h => by
    cases computation with
    | done value => simpa only [compute] using h
    | consult next | observe next =>
      rw [compute] at h ⊢
      exact compute_succ h
    | evaluate operand next =>
      rw [compute] at h ⊢
      cases evaluated : e.evaluate fuel operand w with
      | none => simp [evaluated] at h
      | some pair =>
        simp only [evaluated] at h
        simp only [evaluate_succ evaluated]
        exact compute_succ h
    | react reaction next =>
      rw [compute] at h ⊢
      cases reacted : reaction.run fuel w with
      | none => simp [reacted] at h
      | some w =>
        simp only [reacted] at h
        simp only [Reaction.run_succ reacted]
        exact compute_succ h

end

theorem evaluateOperand_succ {fuel : Nat} {operand : Operand} {embedded : Bool}
    {result : Except Failure Value × World σ}
    (h : e.evaluateOperand fuel operand embedded = some result) :
    e.evaluateOperand (fuel + 1) operand embedded = some result := by
  cases embedded with
  | true => exact h
  | false => exact evaluate_succ h

mutual

theorem execute_succ : ∀ {fuel : Nat} {instruction : Instruction} {e : Engine σ}
    {result : Except Failure Pacing × Engine σ},
    execute fuel instruction e = some result → execute (fuel + 1) instruction e = some result
  | 0, _, _, _, h => by simp [execute] at h
  | fuel + 1, instruction, e, result, h => by
    cases instruction with
    | goto target | call target | ret => simpa only [execute] using h
    | setStatic name value embedded | condGoto _ value embedded =>
      rw [execute] at h ⊢
      cases evaluated : e.evaluateOperand fuel value embedded with
      | none => simp [evaluated] at h
      | some pair => simpa only [evaluateOperand_succ evaluated, evaluated] using h
    | setReactive name value embedded =>
      rw [execute] at h ⊢
      split at h
      · next declared =>
        rw [if_pos declared]
        cases evaluated : e.evaluateOperand fuel value embedded with
        | none => simp [evaluated] at h
        | some pair =>
          obtain ⟨outcome, world⟩ := pair
          simp only [evaluateOperand_succ evaluated, evaluated] at h ⊢
          cases outcome with
          | error failure => exact h
          | ok value =>
            simp only at h ⊢
            cases assigned : world.assign fuel name value with
            | none => simp [assigned] at h
            | some world => simpa only [World.assign_succ assigned, assigned] using h
      · next undeclared => rwa [if_neg undeclared]
    | callComponent name args =>
      rw [execute] at h ⊢
      cases found : e.components.find? name with
      | none => simpa only [found] using h
      | some component =>
        simp only [found] at h ⊢
        cases acted : act fuel (component args) (e.steer Control.moveOn) with
        | none => simp [acted] at h
        | some pair => simpa only [act_succ acted, acted] using h

theorem act_succ : ∀ {fuel : Nat} {action : Action σ} {e : Engine σ}
    {result : Except Failure Pacing × Engine σ},
    act fuel action e = some result → act (fuel + 1) action e = some result
  | 0, _, _, _, h => by simp [act] at h
  | fuel + 1, action, e, result, h => by
    cases action with
    | done value => simpa only [act] using h
    | perform operation next | consult next | observe next | settings next | records next =>
      rw [act] at h ⊢
      exact act_succ h
    | react reaction next =>
      rw [act] at h ⊢
      cases reacted : reaction.run fuel e.world with
      | none => simp [reacted] at h
      | some world =>
        simp only [reacted] at h
        simp only [Reaction.run_succ reacted]
        exact act_succ h
    | evaluate operand embedded next =>
      rw [act] at h ⊢
      cases evaluated : e.evaluateOperand fuel operand embedded with
      | none => simp [evaluated] at h
      | some pair =>
        simp only [evaluated] at h
        simp only [evaluateOperand_succ evaluated]
        exact act_succ h
    | ask request next =>
      rw [act] at h ⊢
      cases answered : answer fuel request e with
      | none => simp [answered] at h
      | some pair =>
        simp only [answered] at h
        simp only [answer_succ answered]
        exact act_succ h

theorem advance_succ : ∀ {fuel : Nat} {mode : StepMode} {executed : Nat} {e : Engine σ}
    {result : Except Failure StepOutcome × Engine σ},
    advance fuel mode executed e = some result → advance (fuel + 1) mode executed e = some result
  | 0, _, _, _, _, h => by simp [advance] at h
  | fuel + 1, mode, executed, e, result, h => by
    rw [advance] at h ⊢
    split at h
    · next locked => rwa [if_pos locked]
    next unlocked =>
    rw [if_neg unlocked]
    cases next : e.control.instruction? with
    | none =>
      simp only [next] at h ⊢
      cases resumed : e.control.resume? with
      | none => simpa only [resumed] using h
      | some control =>
        simp only [resumed] at h ⊢
        exact advance_succ h
    | some instruction =>
      simp only [next] at h ⊢
      cases reached : e.config.reachedLimit? executed with
      | some limit => simpa only [reached] using h
      | none =>
        simp only [reached] at h ⊢
        cases run : execute fuel instruction (e.record instruction) with
        | none => simp [run] at h
        | some pair =>
          obtain ⟨outcome, after⟩ := pair
          simp only [execute_succ run, run] at h ⊢
          cases outcome with
          | error failure => exact h
          | ok pacing =>
            cases mode with
            | single => exact h
            | burst =>
              cases pacing with
              | pause => exact h
              | proceed => exact advance_succ h

theorem runThrough_succ : ∀ {fuel : Nat} {e : Engine σ}
    {result : Except Failure StepOutcome × Engine σ},
    runThrough fuel e = some result → runThrough (fuel + 1) e = some result
  | 0, _, _, h => by simp [runThrough] at h
  | fuel + 1, e, result, h => by
    rw [runThrough] at h ⊢
    cases advanced : advance fuel .burst 0 e with
    | none => simp [advanced] at h
    | some pair =>
      obtain ⟨outcome, after⟩ := pair
      simp only [advance_succ advanced, advanced] at h ⊢
      cases outcome with
      | error failure => exact h
      | ok outcome =>
        cases outcome with
        | halted | deferred => exact h
        | paused | stepped => exact runThrough_succ h

theorem answer_succ : ∀ {fuel : Nat} {request : Request} {e : Engine σ}
    {result : Except Failure (Option StepOutcome) × Engine σ},
    answer fuel request e = some result → answer (fuel + 1) request e = some result
  | 0, _, _, _, h => by simp [answer] at h
  | fuel + 1, request, e, result, h => by
    cases request with
    | step | stepSingle =>
      rw [answer, Option.map_eq_some_iff] at h ⊢
      obtain ⟨pair, advanced, same⟩ := h
      exact ⟨pair, advance_succ advanced, same⟩
    | run =>
      rw [answer, Option.map_eq_some_iff] at h ⊢
      obtain ⟨pair, ran, same⟩ := h
      exact ⟨pair, runThrough_succ ran, same⟩
    | unlock =>
      rw [answer] at h ⊢
      cases pending : e.control.pending with
      | none => simpa only [pending] using h
      | some mode =>
        simp only [pending, Option.map_eq_some_iff] at h ⊢
        obtain ⟨pair, advanced, same⟩ := h
        exact ⟨pair, advance_succ advanced, same⟩

end

theorem evaluate_mono {fuel more : Nat} (le : fuel ≤ more) {operand : Operand} {w : World σ}
    {result : Except Failure Value × World σ} (h : e.evaluate fuel operand w = some result) :
    e.evaluate more operand w = some result :=
  eq_some_of_fuel_le (e.evaluate · operand w) evaluate_succ le h

theorem compute_mono {fuel more : Nat} (le : fuel ≤ more) {computation : Computation σ}
    {w : World σ} {result : Except Failure Value × World σ}
    (h : e.compute fuel computation w = some result) : e.compute more computation w = some result :=
  eq_some_of_fuel_le (e.compute · computation w) compute_succ le h

theorem execute_mono {fuel more : Nat} (le : fuel ≤ more) {instruction : Instruction}
    {result : Except Failure Pacing × Engine σ} (h : execute fuel instruction e = some result) :
    execute more instruction e = some result :=
  eq_some_of_fuel_le (execute · instruction e) execute_succ le h

theorem advance_mono {fuel more : Nat} (le : fuel ≤ more) {mode : StepMode} {executed : Nat}
    {result : Except Failure StepOutcome × Engine σ}
    (h : advance fuel mode executed e = some result) : advance more mode executed e = some result :=
  eq_some_of_fuel_le (advance · mode executed e) advance_succ le h

end Engine

end DialogueEngine
