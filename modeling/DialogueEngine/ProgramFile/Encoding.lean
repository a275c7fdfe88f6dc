import DialogueEngine.MessagePack.Item
import DialogueEngine.Program.Basic

/-!
# Programs as items

How a program is laid out in MessagePack. A variant with content is a map of its name to the
content, a variant without content is its name, and named fields are a map. A host object has no
such form, and neither has anything that contains one.
-/

namespace DialogueEngine

open MessagePack (Item)

namespace ProgramFile

/-- A variant with content. -/
def variant (name : String) (content : Item) : Item := .map [(.text name, content)]

/-- Named fields, in the order of their declaration. -/
def record (fields : List (String × Item)) : Item :=
  .map (fields.map fun field => (.text field.1, field.2))

def pairItem (key value : Item) : Item := .array [key, value]

mutual

def ofValue? : Value → Option Item
  | .nil => some (.text "Nil")
  | .bool b => some (variant "Bool" (.bool b))
  | .int i => some (variant "Int" (.signed i))
  | .float x => some (variant "Float" (.float x))
  | .string s => some (variant "String" (.text s))
  | .list items => (ofValues? items).map fun items => variant "List" (.array items)
  | .map entries => (ofEntries? entries).map fun items => variant "Map" (.array items)
  | .hostObject _ => none

def ofValues? : List Value → Option (List Item)
  | [] => some []
  | value :: rest =>
      match ofValue? value, ofValues? rest with
      | some item, some items => some (item :: items)
      | _, _ => none

def ofEntries? : List (Value × Value) → Option (List Item)
  | [] => some []
  | (key, value) :: rest =>
      match ofValue? key, ofValue? value, ofEntries? rest with
      | some key, some value, some items => some (pairItem key value :: items)
      | _, _, _ => none

end

mutual

def ofOperand? : Operand → Option Item
  | .literal value => (ofValue? value).map (variant "Literal")
  | .call function arguments =>
      (ofOperands? arguments).map fun items =>
        variant "Expr" (record [("operator", .text function), ("args", .array items)])

def ofOperands? : List Operand → Option (List Item)
  | [] => some []
  | operand :: rest =>
      match ofOperand? operand, ofOperands? rest with
      | some item, some items => some (item :: items)
      | _, _ => none

end

/-- The named arguments of a component, as a sorted list. -/
def ofArgs? (args : ComponentArgs) : Option Item :=
  (args.entries.mapM fun entry => (ofValue? entry.2).map (pairItem (.text entry.1))).map .array

def ofTarget (target : UInt64) : Item := .unsigned target

def ofAssignment? (name : String) (value : Operand) (embedded : Bool) : Option Item :=
  (ofOperand? value).map fun value =>
    record [("name", .text name), ("value", value), ("eval", .bool embedded)]

def ofInstruction? (instruction : Instruction) : Option Item :=
  match instruction with
  | .setStatic name value embedded | .setReactive name value embedded =>
      (ofAssignment? name value embedded).map (variant instruction.opcode)
  | .goto target | .call target =>
      some (variant instruction.opcode (record [("target", ofTarget target)]))
  | .condGoto target condition embedded =>
      (ofOperand? condition).map fun condition =>
        variant instruction.opcode
          (record [("target", ofTarget target), ("condition", condition), ("eval", .bool embedded)])
  | .ret => some (.text instruction.opcode)
  | .callComponent name args =>
      (ofArgs? args).map fun args =>
        variant instruction.opcode (record [("name", .text name), ("args", args)])

def ofProgram? (program : Program) : Option Item := (program.mapM ofInstruction?).map .array

end ProgramFile

end DialogueEngine
