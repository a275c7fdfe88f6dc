import DialogueEngine.Engine.Evaluation

/-!
# Stepping

How an engine executes instructions. A step goes on until the program halts, a component asks for a
pause or the engine is locked; a failing instruction leaves program, position, stacks and lock as
it found them. Components may step the engine themselves, so the functions recurse by fuel, and
are `none` when it runs out.
-/

namespace DialogueEngine

/-- The position that a conditional jump leads to. -/
def jumpTarget : Value → Except Failure Nat
  | .int i =>
      if i < 0 then .error ⟨.invalidJumpTarget (toString i.toInt), none⟩
      else .ok i.toInt.toNat
  | value =>
      .error ⟨.invalidJumpTarget (value.literalText ++ " (" ++ value.kind.name ++ ")"), none⟩

/-- Where a failed instruction stands. -/
def Control.contextOf (c : Control) (instruction : Instruction) (position : Nat) :
    Failure.Context where
  instruction := some instruction.opcode
  position := some position
  operand := instruction.operand?.map Operand.text
  stack := c.frames

namespace Engine

variable {σ : Type}

mutual

/-- Executes an instruction, which stands at the position of the engine. -/
def execute : Nat → Instruction → Engine σ → Option (Except Failure Pacing × Engine σ)
  | 0, _, _ => none
  | fuel + 1, instruction, e =>
      match instruction with
      | .setStatic name value embedded =>
          match e.evaluateOperand fuel value embedded with
          | none => none
          | some (result, world) =>
              let e := { e with world }
              match result with
              | .error failure => some (.error failure, e)
              | .ok value => some (.ok .proceed, (e.setStatic name value).steer Control.moveOn)
      | .setReactive name value embedded =>
          if e.world.reactives.contains name then
            match e.evaluateOperand fuel value embedded with
            | none => none
            | some (.error failure, world) => some (.error failure, { e with world })
            | some (.ok value, world) =>
                match world.assign fuel name value with
                | none => none
                | some world => some (.ok .proceed, { e with world }.steer Control.moveOn)
          else some (.error ⟨.undeclaredReactive name, none⟩, e)
      | .goto target => some (.ok .proceed, e.steer (·.jump target.toNat))
      | .condGoto _ condition embedded =>
          match e.evaluateOperand fuel condition embedded with
          | none => none
          | some (result, world) =>
              let e := { e with world }
              match result.bind jumpTarget with
              | .error failure => some (.error failure, e)
              | .ok position => some (.ok .proceed, e.steer (·.jump position))
      | .call target => some (.ok .proceed, e.steer (·.call target.toNat))
      | .ret =>
          match e.control.ret? with
          | none => some (.error ⟨.returnWithoutCall, none⟩, e)
          | some control => some (.ok .proceed, { e with control })
      | .callComponent name args =>
          match e.components.find? name with
          | none => some (.error ⟨.unknownComponent name, none⟩, e)
          | some component =>
              match act fuel (component args) (e.steer Control.moveOn) with
              | some (.error failure, after) =>
                  some (.error failure, { after with control := e.control })
              | result => result

/-- Carries out what a component does. -/
def act : Nat → Action σ → Engine σ → Option (Except Failure Pacing × Engine σ)
  | 0, _, _ => none
  | fuel + 1, action, e =>
      match action with
      | .done result => some (result, e)
      | .perform operation next => act fuel next (e.perform operation)
      | .react reaction next =>
          match reaction.run fuel e.world with
          | none => none
          | some world => act fuel next { e with world }
      | .consult next => act fuel (next e.world.host) e
      | .observe next => act fuel (next e.view) e
      | .settings next => act fuel (next e.config) e
      | .records next => act fuel (next e.trace) e
      | .evaluate operand embedded next =>
          match e.evaluateOperand fuel operand embedded with
          | none => none
          | some (result, world) => act fuel (next result) { e with world }
      | .ask request next =>
          match answer fuel request e with
          | none => none
          | some (result, e) => act fuel (next result) e

/-- Steps on after some instructions have been executed in this step. A finished sub-program is
left only when its caller's program is about to go on. -/
def advance : Nat → StepMode → Nat → Engine σ → Option (Except Failure StepOutcome × Engine σ)
  | 0, _, _, _ => none
  | fuel + 1, mode, executed, e =>
      if e.control.locked then some (.ok .deferred, e.steer (·.defer mode))
      else
        match e.control.instruction? with
        | none =>
            match e.control.resume? with
            | none => some (.ok .halted, e)
            | some control => advance fuel mode executed { e with control }
        | some instruction =>
            match e.config.reachedLimit? executed with
            | some limit =>
                let failure : Failure := ⟨.burstExceeded limit, none⟩
                some (.error (failure.within { stack := e.control.frames }), e)
            | none =>
                match execute fuel instruction (e.record instruction) with
                | none => none
                | some (.error failure, after) =>
                    let context := after.control.contextOf instruction e.control.position
                    some (.error (failure.within context), after)
                | some (.ok pacing, after) =>
                    match mode, pacing with
                    | .single, _ => some (.ok .stepped, after)
                    | .burst, .pause => some (.ok .paused, after)
                    | .burst, .proceed => advance fuel .burst (executed + 1) after

/-- Steps until the program has halted, or the engine is locked. -/
def runThrough : Nat → Engine σ → Option (Except Failure StepOutcome × Engine σ)
  | 0, _ => none
  | fuel + 1, e =>
      match advance fuel .burst 0 e with
      | some (.ok .paused, e) | some (.ok .stepped, e) => runThrough fuel e
      | result => result

/-- Does what is requested. Only unlocking may have no outcome. -/
def answer : Nat → Request → Engine σ → Option (Except Failure (Option StepOutcome) × Engine σ)
  | 0, _, _ => none
  | fuel + 1, request, e =>
      match request with
      | .step => (advance fuel .burst 0 e).map fun (result, e) => (result.map some, e)
      | .stepSingle => (advance fuel .single 0 e).map fun (result, e) => (result.map some, e)
      | .run => (runThrough fuel e).map fun (result, e) => (result.map some, e)
      | .unlock =>
          match e.control.pending with
          | none => some (.ok none, e.steer Control.unlock)
          | some mode =>
              (advance fuel mode 0 (e.steer Control.unlock)).map fun (result, e) =>
                (result.map some, e)

end

end Engine

end DialogueEngine
