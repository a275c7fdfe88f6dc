import DialogueEngine.Failure
import DialogueEngine.MessagePack.Reader
import DialogueEngine.MessagePack.Writer
import DialogueEngine.ProgramFile.Decoding
import DialogueEngine.ProgramFile.Encoding
import DialogueEngine.ProgramFile.Storage

/-!
# Program files

A program file holds a program in MessagePack. Bytes after the program are not looked at.
-/

namespace DialogueEngine

open MessagePack (Item)

namespace ProgramFile

def encode (program : Program) : Except Failure Bytes :=
  match ofProgram? program with
  | some item => .ok item.write
  | none => .error ⟨.serialization "opaque values cannot be serialized", none⟩

/-- The deepest nesting of arrays and maps that a program can have: around each level may lie the
map of a variant, and a value that is an operand has one more. -/
def maxDepth : Nat := 2 * maxLevels + 1

def decode? (bytes : Bytes) : Option Program :=
  match Item.read maxDepth bytes with
  | some (item, _) => toProgram? item
  | none => none

def decode (bytes : Bytes) : Except Failure Program :=
  match decode? bytes with
  | some program => .ok program
  | none => .error ⟨.serialization "the bytes hold no program", none⟩

/-! ## Failures of the storage -/

def fileFailure (attempt path : String) (fault : StorageFault) : Failure :=
  ⟨.io ("failed to " ++ attempt ++ " file '" ++ path ++ "': " ++ fault.message), none⟩

/-- A directory can be opened like a file, but not read. -/
def readFailure (path : String) : StorageFault → Failure
  | .isDirectory => fileFailure "read" path .isDirectory
  | fault => fileFailure "open" path fault

def writeFailure (path : String) (fault : StorageFault) : Failure := fileFailure "create" path fault

/-- The program in a file, from the outcome of reading it. -/
def ofContent (path : String) (content : Except StorageFault Bytes) : Except Failure Program :=
  match content with
  | .ok bytes => decode bytes
  | .error fault => .error (readFailure path fault)

def load (storage : Storage) (path : String) : Except Failure Program :=
  ofContent path (storage.read path)

/-- A program that cannot be written leaves the storage alone. -/
def save (storage : Storage) (path : String) (program : Program) : Except Failure Storage :=
  match encode program with
  | .error failure => .error failure
  | .ok bytes => (storage.write path bytes).mapError (writeFailure path)

end ProgramFile

end DialogueEngine
