import DialogueEngine.Program.Basic

/-!
# Building programs

A program under construction is a program, to which each function adds one instruction. `position`
tells where the next one will stand.
-/

namespace DialogueEngine

namespace Program

def position (program : Program) : Nat := program.length

def push (program : Program) (instruction : Instruction) : Program := program ++ [instruction]

variable (program : Program)

def setStatic (name : String) (value : Operand) : Program :=
  program.push (.setStatic name value false)

def setStaticEmbedded (name source : String) : Program :=
  program.push (.setStatic name (.literal (.string source)) true)

def setReactive (name : String) (value : Operand) : Program :=
  program.push (.setReactive name value false)

def setReactiveEmbedded (name source : String) : Program :=
  program.push (.setReactive name (.literal (.string source)) true)

def goto (target : UInt64) : Program := program.push (.goto target)

def condGoto (condition : Operand) : Program := program.push (.condGoto 0 condition false)

def condGotoEmbedded (source : String) : Program :=
  program.push (.condGoto 0 (.literal (.string source)) true)

def call (target : UInt64) : Program := program.push (.call target)

def ret : Program := program.push .ret

def callComponent (name : String) (args : ComponentArgs) : Program :=
  program.push (.callComponent name args)

/-- Calls a component with a single argument named `text`. -/
def say (component text : String) : Program :=
  program.callComponent component (ComponentArgs.empty.insert "text" (.string text))

@[simp]
theorem position_push (instruction : Instruction) :
    (program.push instruction).position = program.position + 1 := by
  simp [position, push]

end Program

end DialogueEngine
