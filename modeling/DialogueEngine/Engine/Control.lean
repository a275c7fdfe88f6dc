import DialogueEngine.Program.Basic

/-!
# Control state

Where an engine stands: the active program and the next position in it, the positions to return to,
the suspended programs, and the lock. A failing component is undone by putting this state back.
-/

namespace DialogueEngine

/-- A suspended program and the position at which it goes on. -/
structure Continuation where
  program : Program
  position : Nat
deriving DecidableEq

/-- How far a step goes: one instruction, or on until there is a reason to stop. -/
inductive StepMode where
  | burst
  | single
deriving DecidableEq

structure Control where
  program : Program := []
  position : Nat := 0
  /-- The positions to return to, the innermost call first. -/
  callStack : List Nat := []
  /-- The suspended programs, the one to go on first in front. -/
  continuations : List Continuation := []
  locked : Bool := false
  /-- The last step that was asked for under the lock. -/
  pending : Option StepMode := none
deriving DecidableEq, Inhabited

namespace Control

variable (c : Control)

def instruction? : Option Instruction := c.program[c.position]?

def depth : Nat := c.continuations.length

/-- Nothing is left to execute or to go on with. -/
def halted : Bool := c.instruction?.isNone && c.continuations.isEmpty

def jump (position : Nat) : Control := { c with position }

def moveOn : Control := c.jump (c.position + 1)

/-- Starts a program in place of the active one. -/
def load (program : Program) : Control := { c with program, position := 0 }

def suspended : Continuation := ⟨c.program, c.position⟩

/-- Suspends the active program and starts another. -/
def loadSub (program : Program) : Control :=
  ({ c with continuations := c.suspended :: c.continuations } : Control).load program

/-- Goes on with the program that was suspended last. -/
def resume? : Option Control :=
  match c.continuations with
  | [] => none
  | continuation :: rest =>
      some { c with
        program := continuation.program
        position := continuation.position
        continuations := rest }

/-- The program that was active before all that are suspended now. -/
def root : Program := (c.continuations.getLast?.map Continuation.program).getD c.program

/-- The start of the root program, with nothing to return to and no lock. -/
def reset : Control := { program := c.root }

def lock : Control := { c with locked := true }

def unlock : Control := { c with locked := false, pending := none }

/-- Notes a step that the lock does not let through. -/
def defer (mode : StepMode) : Control := { c with pending := some mode }

def call (target : Nat) : Control :=
  { c with position := target, callStack := (c.position + 1) :: c.callStack }

/-- Returns from the innermost call. -/
def ret? : Option Control :=
  match c.callStack with
  | [] => none
  | position :: rest => some { c with position, callStack := rest }

/-! ## Texts -/

def frameText (program : Program) (position : Nat) : String :=
  "program of " ++ toString program.length ++ " instructions at position " ++ toString position

/-- The programs under way, the active one first. -/
def frames : List String :=
  frameText c.program c.position ::
    c.continuations.map fun s => "suspended " ++ frameText s.program s.position

end Control

end DialogueEngine
