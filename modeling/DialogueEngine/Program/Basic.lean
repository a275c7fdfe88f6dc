import DialogueEngine.Program.Instruction
import DialogueEngine.Text.Padding

/-!
# Programs

A program is a sequence of instructions, numbered from zero.
-/

namespace DialogueEngine

abbrev Program := List Instruction

namespace Program

def listingLine (instruction : Instruction) (position : Nat) : String :=
  Text.padLeft 4 (toString position) ++ "  " ++ instruction.text ++ "\n"

/-- One line for each instruction, with its position in front. -/
def listing (program : Program) : String :=
  String.join (program.zipIdx.map fun (instruction, position) => listingLine instruction position)

end Program

end DialogueEngine
