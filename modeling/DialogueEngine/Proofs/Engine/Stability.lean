import DialogueEngine.Proofs.Engine.Transition

/-!
# What stepping keeps

Whatever an engine executes is made of a few kinds of changes: moves of its control state, the
operations of components, changes of the world, records in the trace, and putting back the control
state after a failure. A relation that all of these keep is kept by every execution.
-/

namespace DialogueEngine

/-- What a step by itself does to the control state, apart from putting it back. -/
inductive Control.Move : Control → Control → Prop where
  | jump (c : Control) (position : Nat) : Move c (c.jump position)
  | call (c : Control) (target : Nat) : Move c (c.call target)
  | ret {c returned : Control} : c.ret? = some returned → Move c returned
  | resume {c resumed : Control} : c.resume? = some resumed → Move c resumed
  | defer {c : Control} (mode : StepMode) : c.locked = true → Move c (c.defer mode)
  | unlock (c : Control) : Move c c.unlock

namespace Engine

variable {σ : Type}

/-- A relation between an engine and what becomes of it that each kind of change keeps. -/
structure Stable (R : Engine σ → Engine σ → Prop) : Prop where
  refl (e : Engine σ) : R e e
  trans {e middle after : Engine σ} : R e middle → R middle after → R e after
  perform (e : Engine σ) (operation : Operation σ) : R e (e.perform operation)
  world (e : Engine σ) (world : World σ) : R e { e with world }
  record (e : Engine σ) (instruction : Instruction) : R e (e.record instruction)
  move {e : Engine σ} {control : Control} : e.control.Move control → R e { e with control }
  rollback {e after : Engine σ} : R e after → R e { after with control := e.control }

namespace Stable

variable {R : Engine σ → Engine σ → Prop}

mutual

protected theorem execute (stable : Stable R) : ∀ {fuel : Nat} {instruction : Instruction}
    {e after : Engine σ} {result : Except Failure Pacing},
    execute fuel instruction e = some (result, after) → R e after
  | 0, _, _, _, _, h => by simp [Engine.execute] at h
  | fuel + 1, instruction, e, after, result, h => by
    cases executed_of_execute h with
    | refused _ _ world => exact stable.world e world
    | stored =>
      exact stable.trans (stable.world e _)
        (stable.trans (stable.perform _ (.setStatic _ _)) (stable.move (.jump _ _)))
    | assigned | branched => exact stable.trans (stable.world e _) (stable.move (.jump _ _))
    | jumped target => exact stable.move (.jump _ _)
    | called target => exact stable.move (.call _ _)
    | returned back => exact stable.move (.ret back)
    | interrupted found acted =>
      exact stable.rollback (stable.trans (stable.move (.jump _ _)) (stable.act acted))
    | performed found acted => exact stable.trans (stable.move (.jump _ _)) (stable.act acted)

protected theorem act (stable : Stable R) : ∀ {fuel : Nat} {action : Action σ}
    {e after : Engine σ} {result : Except Failure Pacing},
    act fuel action e = some (result, after) → R e after
  | 0, _, _, _, _, h => by simp [Engine.act] at h
  | fuel + 1, action, e, after, result, h => by
    cases action with
    | done value =>
      rw [Engine.act] at h
      cases h
      exact stable.refl e
    | perform operation next =>
      rw [Engine.act] at h
      exact stable.trans (stable.perform e operation) (stable.act h)
    | consult next | observe next | settings next | records next =>
      rw [Engine.act] at h
      exact stable.act h
    | react reaction next =>
      rw [Engine.act] at h
      cases reacted : reaction.run fuel e.world with
      | none => simp [reacted] at h
      | some world =>
        simp only [reacted] at h
        exact stable.trans (stable.world e world) (stable.act h)
    | evaluate operand embedded next =>
      rw [Engine.act] at h
      cases evaluated : e.evaluateOperand fuel operand embedded with
      | none => simp [evaluated] at h
      | some pair =>
        simp only [evaluated] at h
        exact stable.trans (stable.world e _) (stable.act h)
    | ask request next =>
      rw [Engine.act] at h
      cases answered : answer fuel request e with
      | none => simp [answered] at h
      | some pair =>
        simp only [answered] at h
        exact stable.trans (stable.answer answered) (stable.act h)

protected theorem advance (stable : Stable R) : ∀ {fuel : Nat} {mode : StepMode} {executed : Nat}
    {e after : Engine σ} {result : Except Failure StepOutcome},
    advance fuel mode executed e = some (result, after) → R e after
  | 0, _, _, _, _, _, h => by simp [Engine.advance] at h
  | fuel + 1, mode, executed, e, after, result, h => by
    have starting (instruction : Instruction) {middle : Engine σ} {result : Except Failure Pacing}
        (ran : execute fuel instruction (e.record instruction) = some (result, middle)) :
        R e middle :=
      stable.trans (stable.record e instruction) (stable.execute ran)
    cases advanced_of_advance h with
    | deferred locked => exact stable.move (.defer mode locked)
    | halted | exceeded => exact stable.refl e
    | resumed _ _ resume rest =>
      exact stable.trans (stable.move (.resume resume)) (stable.advance rest)
    | failed _ _ _ ran | stepped _ _ _ _ ran | paused _ _ _ _ ran => exact starting _ ran
    | onward _ _ _ _ ran rest => exact stable.trans (starting _ ran) (stable.advance rest)

protected theorem runThrough (stable : Stable R) : ∀ {fuel : Nat}
    {e after : Engine σ} {result : Except Failure StepOutcome},
    runThrough fuel e = some (result, after) → R e after
  | 0, _, _, _, h => by simp [Engine.runThrough] at h
  | fuel + 1, e, after, result, h => by
    rw [Engine.runThrough] at h
    split at h
    · next advanced => exact stable.trans (stable.advance advanced) (stable.runThrough h)
    · next advanced => exact stable.trans (stable.advance advanced) (stable.runThrough h)
    · exact stable.advance h

protected theorem answer (stable : Stable R) : ∀ {fuel : Nat} {request : Request}
    {e after : Engine σ} {result : Except Failure (Option StepOutcome)},
    answer fuel request e = some (result, after) → R e after
  | 0, _, _, _, _, h => by simp [Engine.answer] at h
  | fuel + 1, request, e, after, result, h => by
    cases request with
    | step | stepSingle =>
      rw [Engine.answer] at h
      obtain ⟨pair, advanced, same⟩ := Option.map_eq_some_iff.mp h
      cases same
      exact stable.advance advanced
    | run =>
      rw [Engine.answer] at h
      obtain ⟨pair, ran, same⟩ := Option.map_eq_some_iff.mp h
      cases same
      exact stable.runThrough ran
    | unlock =>
      rw [Engine.answer] at h
      cases pending : e.control.pending with
      | none =>
        simp only [pending] at h
        cases h
        exact stable.move (.unlock _)
      | some mode =>
        simp only [pending] at h
        obtain ⟨pair, advanced, same⟩ := Option.map_eq_some_iff.mp h
        cases same
        exact stable.trans (stable.move (.unlock _)) (stable.advance advanced)

end

end Stable

/-- No execution changes the configuration. -/
theorem stable_config : Stable fun e after : Engine σ => after.config = e.config where
  refl _ := rfl
  trans first second := second.trans first
  perform e operation := by cases operation <;> rfl
  world _ _ := rfl
  record e instruction := by
    rw [record]
    split <;> rfl
  move _ := rfl
  rollback same := same

end Engine

end DialogueEngine
