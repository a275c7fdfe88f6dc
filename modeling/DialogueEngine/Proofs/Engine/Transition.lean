import DialogueEngine.Engine.Stepping

/-!
# Transitions

What the execution of an instruction can do to an engine, and how a step can go on from a state,
each said once as a list of cases.
-/

namespace DialogueEngine.Engine

variable {σ : Type}

@[simp]
theorem control_record (e : Engine σ) (instruction : Instruction) :
    (e.record instruction).control = e.control := by
  rw [record]
  split <;> rfl

/-- The ways in which an instruction can be executed. Fuel is that of the calls inside. -/
inductive Executed (fuel : Nat) (e : Engine σ) :
    Instruction → Except Failure Pacing → Engine σ → Prop where
  /-- When an instruction fails by itself, nothing has changed but what the evaluation of its operand
  may have done to the world. -/
  | refused (instruction : Instruction) (failure : Failure) (world : World σ)
      (left : world = e.world ∨ ∃ operand embedded result,
        e.evaluateOperand fuel operand embedded = some (result, world)) :
      Executed fuel e instruction (.error failure) { e with world }
  | stored {name : String} {operand : Operand} {embedded : Bool} {value : Value} {world : World σ}
      (evaluated : e.evaluateOperand fuel operand embedded = some (.ok value, world)) :
      Executed fuel e (.setStatic name operand embedded) (.ok .proceed)
        ((({ e with world } : Engine σ).setStatic name value).steer Control.moveOn)
  | assigned {name : String} {operand : Operand} {embedded : Bool} {value : Value}
      {middle world : World σ} (declared : e.world.reactives.contains name = true)
      (evaluated : e.evaluateOperand fuel operand embedded = some (.ok value, middle))
      (notified : middle.assign fuel name value = some world) :
      Executed fuel e (.setReactive name operand embedded) (.ok .proceed)
        (({ e with world } : Engine σ).steer Control.moveOn)
  | jumped (target : UInt64) :
      Executed fuel e (.goto target) (.ok .proceed) (e.steer (·.jump target.toNat))
  | branched {target : UInt64} {operand : Operand} {embedded : Bool} {value : Value}
      {world : World σ} {position : Nat}
      (evaluated : e.evaluateOperand fuel operand embedded = some (.ok value, world))
      (leads : jumpTarget value = .ok position) :
      Executed fuel e (.condGoto target operand embedded) (.ok .proceed)
        (({ e with world } : Engine σ).steer (·.jump position))
  | called (target : UInt64) :
      Executed fuel e (.call target) (.ok .proceed) (e.steer (·.call target.toNat))
  | returned {control : Control} (back : e.control.ret? = some control) :
      Executed fuel e .ret (.ok .proceed) { e with control }
  /-- A failing component leaves the control state as it was before the instruction. -/
  | interrupted {name : String} {args : ComponentArgs} {component : Component σ}
      {failure : Failure} {after : Engine σ} (found : e.components.find? name = some component)
      (acted : act fuel (component args) (e.steer Control.moveOn) = some (.error failure, after)) :
      Executed fuel e (.callComponent name args) (.error failure)
        { after with control := e.control }
  | performed {name : String} {args : ComponentArgs} {component : Component σ}
      {pacing : Pacing} {after : Engine σ} (found : e.components.find? name = some component)
      (acted : act fuel (component args) (e.steer Control.moveOn) = some (.ok pacing, after)) :
      Executed fuel e (.callComponent name args) (.ok pacing) after

variable {fuel : Nat} {e after : Engine σ} {result : Except Failure Pacing}

theorem executed_setStatic {name : String} {operand : Operand} {embedded : Bool}
    (h : execute (fuel + 1) (.setStatic name operand embedded) e = some (result, after)) :
    Executed fuel e (.setStatic name operand embedded) result after := by
  rw [execute] at h
  cases evaluated : e.evaluateOperand fuel operand embedded with
  | none => simp [evaluated] at h
  | some pair =>
    obtain ⟨outcome, world⟩ := pair
    simp only [evaluated] at h
    cases outcome with
    | error failure =>
      cases h
      exact .refused _ failure world (.inr ⟨_, _, _, evaluated⟩)
    | ok value =>
      cases h
      exact .stored evaluated

theorem executed_setReactive {name : String} {operand : Operand} {embedded : Bool}
    (h : execute (fuel + 1) (.setReactive name operand embedded) e = some (result, after)) :
    Executed fuel e (.setReactive name operand embedded) result after := by
  rw [execute] at h
  split at h
  · next declared =>
    cases evaluated : e.evaluateOperand fuel operand embedded with
    | none => simp [evaluated] at h
    | some pair =>
      obtain ⟨outcome, middle⟩ := pair
      simp only [evaluated] at h
      cases outcome with
      | error failure =>
        cases h
        exact .refused _ failure middle (.inr ⟨_, _, _, evaluated⟩)
      | ok value =>
        simp only at h
        cases notified : middle.assign fuel name value with
        | none => simp [notified] at h
        | some world =>
          simp only [notified] at h
          cases h
          exact .assigned declared evaluated notified
  · cases h
    exact .refused _ _ e.world (.inl rfl)

theorem executed_condGoto {target : UInt64} {operand : Operand} {embedded : Bool}
    (h : execute (fuel + 1) (.condGoto target operand embedded) e = some (result, after)) :
    Executed fuel e (.condGoto target operand embedded) result after := by
  rw [execute] at h
  cases evaluated : e.evaluateOperand fuel operand embedded with
  | none => simp [evaluated] at h
  | some pair =>
    obtain ⟨outcome, world⟩ := pair
    simp only [evaluated] at h
    cases outcome with
    | error failure =>
      cases h
      exact .refused _ failure world (.inr ⟨_, _, _, evaluated⟩)
    | ok value =>
      simp only [Except.bind] at h
      cases leads : jumpTarget value with
      | error failure =>
        simp only [leads] at h
        cases h
        exact .refused _ failure world (.inr ⟨_, _, _, evaluated⟩)
      | ok position =>
        simp only [leads] at h
        cases h
        exact .branched evaluated leads

theorem executed_ret (h : execute (fuel + 1) .ret e = some (result, after)) :
    Executed fuel e .ret result after := by
  simp only [execute] at h
  cases returned : e.control.ret? with
  | none =>
    simp only [returned] at h
    cases h
    exact .refused .ret _ e.world (.inl rfl)
  | some control =>
    simp only [returned] at h
    cases h
    exact .returned returned

theorem executed_callComponent {name : String} {args : ComponentArgs}
    (h : execute (fuel + 1) (.callComponent name args) e = some (result, after)) :
    Executed fuel e (.callComponent name args) result after := by
  rw [execute] at h
  cases found : e.components.find? name with
  | none =>
    simp only [found] at h
    cases h
    exact .refused _ _ e.world (.inl rfl)
  | some component =>
    simp only [found] at h
    cases acted : act fuel (component args) (e.steer Control.moveOn) with
    | none => simp [acted] at h
    | some pair =>
      obtain ⟨outcome, ended⟩ := pair
      simp only [acted] at h
      cases outcome with
      | error failure =>
        cases h
        exact .interrupted found acted
      | ok pacing =>
        cases h
        exact .performed found acted

theorem executed_of_execute {instruction : Instruction}
    (h : execute (fuel + 1) instruction e = some (result, after)) :
    Executed fuel e instruction result after := by
  cases instruction with
  | setStatic name operand embedded => exact executed_setStatic h
  | setReactive name operand embedded => exact executed_setReactive h
  | condGoto target operand embedded => exact executed_condGoto h
  | goto target =>
    rw [execute] at h
    cases h
    exact .jumped target
  | call target =>
    rw [execute] at h
    cases h
    exact .called target
  | ret => exact executed_ret h
  | callComponent name args => exact executed_callComponent h

/-- A failing instruction leaves the control state as it found it. -/
theorem control_of_execute_error {instruction : Instruction} {failure : Failure}
    (h : execute fuel instruction e = some (.error failure, after)) :
    after.control = e.control := by
  cases fuel with
  | zero => simp [execute] at h
  | succ fuel => cases executed_of_execute h <;> rfl

/-- The ways in which a step can go on. Fuel is that of the calls inside. -/
inductive Advanced (fuel : Nat) (mode : StepMode) (executed : Nat) (e : Engine σ) :
    Except Failure StepOutcome → Engine σ → Prop where
  | deferred (locked : e.control.locked = true) :
      Advanced fuel mode executed e (.ok .deferred) (e.steer (·.defer mode))
  | halted (unlocked : e.control.locked = false) (finished : e.control.instruction? = none)
      (last : e.control.resume? = none) : Advanced fuel mode executed e (.ok .halted) e
  | resumed {control : Control} {result : Except Failure StepOutcome} {after : Engine σ}
      (unlocked : e.control.locked = false) (finished : e.control.instruction? = none)
      (resume : e.control.resume? = some control)
      (rest : advance fuel mode executed { e with control } = some (result, after)) :
      Advanced fuel mode executed e result after
  | exceeded {instruction : Instruction} {limit : Nat} (unlocked : e.control.locked = false)
      (next : e.control.instruction? = some instruction)
      (reached : e.config.reachedLimit? executed = some limit) :
      Advanced fuel mode executed e
        (.error (Failure.within ⟨.burstExceeded limit, none⟩ { stack := e.control.frames })) e
  | failed {instruction : Instruction} {failure : Failure} {after : Engine σ}
      (unlocked : e.control.locked = false) (next : e.control.instruction? = some instruction)
      (within : e.config.reachedLimit? executed = none)
      (ran : execute fuel instruction (e.record instruction) = some (.error failure, after)) :
      Advanced fuel mode executed e
        (.error (failure.within (after.control.contextOf instruction e.control.position))) after
  | stepped {instruction : Instruction} {pacing : Pacing} {after : Engine σ}
      (single : mode = .single) (unlocked : e.control.locked = false)
      (next : e.control.instruction? = some instruction)
      (within : e.config.reachedLimit? executed = none)
      (ran : execute fuel instruction (e.record instruction) = some (.ok pacing, after)) :
      Advanced fuel mode executed e (.ok .stepped) after
  | paused {instruction : Instruction} {after : Engine σ}
      (burst : mode = .burst) (unlocked : e.control.locked = false)
      (next : e.control.instruction? = some instruction)
      (within : e.config.reachedLimit? executed = none)
      (ran : execute fuel instruction (e.record instruction) = some (.ok .pause, after)) :
      Advanced fuel mode executed e (.ok .paused) after
  | onward {instruction : Instruction} {middle after : Engine σ}
      {result : Except Failure StepOutcome}
      (burst : mode = .burst) (unlocked : e.control.locked = false)
      (next : e.control.instruction? = some instruction)
      (within : e.config.reachedLimit? executed = none)
      (ran : execute fuel instruction (e.record instruction) = some (.ok .proceed, middle))
      (rest : advance fuel .burst (executed + 1) middle = some (result, after)) :
      Advanced fuel mode executed e result after

theorem advanced_of_advance {mode : StepMode} {executed : Nat}
    {result : Except Failure StepOutcome}
    (h : advance (fuel + 1) mode executed e = some (result, after)) :
    Advanced fuel mode executed e result after := by
  rw [advance] at h
  split at h
  · next locked =>
    cases h
    exact .deferred locked
  next unlocked =>
  rw [Bool.not_eq_true] at unlocked
  cases next : e.control.instruction? with
  | none =>
    simp only [next] at h
    cases resume : e.control.resume? with
    | none =>
      simp only [resume] at h
      cases h
      exact .halted unlocked next resume
    | some control =>
      simp only [resume] at h
      exact .resumed unlocked next resume h
  | some instruction =>
    simp only [next] at h
    cases reached : e.config.reachedLimit? executed with
    | some limit =>
      simp only [reached] at h
      cases h
      exact .exceeded unlocked next reached
    | none =>
      simp only [reached] at h
      cases ran : execute fuel instruction (e.record instruction) with
      | none => simp [ran] at h
      | some pair =>
        obtain ⟨outcome, middle⟩ := pair
        simp only [ran] at h
        cases outcome with
        | error failure =>
          cases h
          exact .failed unlocked next reached ran
        | ok pacing =>
          cases mode with
          | single =>
            cases h
            exact .stepped rfl unlocked next reached ran
          | burst =>
            cases pacing with
            | pause =>
              cases h
              exact .paused rfl unlocked next reached ran
            | proceed => exact .onward rfl unlocked next reached ran h

end DialogueEngine.Engine
