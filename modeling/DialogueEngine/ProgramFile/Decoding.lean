import DialogueEngine.MessagePack.Item
import DialogueEngine.Program.Basic
import DialogueEngine.Value.Entries

/-!
# Programs from items

Reading accepts more than writing produces. Variants and fields may be given by their numbers,
fields in any order or as an array in the order of their declaration, and fields that are not known
are passed over. A variant without content may have `nil` for a content. Bytes may stand for an
array of numbers.

Reading goes down a limited number of levels. Lists, pairs, sets of fields and whatever is passed
over take a level each; a variant with its content takes none.
-/

namespace DialogueEngine

open MessagePack (Item utf8 ofUtf8?)

namespace ProgramFile

/-- What an item identifies among some names: nothing, for an item that is no identifier, or else
the number of a name, or none of them. -/
def identify (names : List String) : Item → Option (Option Nat)
  | .string bytes | .binary bytes => some (names.findIdx? fun name => utf8 name = bytes)
  | .unsigned n => some (if n.toNat < names.length then some n.toNat else none)
  | _ => none

def variantNumber? (names : List String) (item : Item) : Option Nat := (identify names item).join

/-! ## Scalars -/

def toString? : Item → Option String
  | .string bytes | .binary bytes => ofUtf8? bytes
  | _ => none

def toBool? : Item → Option Bool
  | .bool b => some b
  | _ => none

def toInt? : Item → Option Int64
  | .unsigned n => if n.toNat < 0x8000000000000000 then some (Int64.ofNat n.toNat) else none
  | .signed i => some i
  | _ => none

/-- Integers are rounded to floats. -/
def toDouble? : Item → Option Double
  | .float x => some x
  | .unsigned n => some (Double.ofInt n.toNat)
  | .signed i => some (Double.ofInt i.toInt)
  | _ => none

def toTarget? : Item → Option UInt64
  | .unsigned n => some n
  | .signed i => if 0 ≤ i then some i.toUInt64 else none
  | _ => none

def toUnit? : Item → Option Unit
  | .nil => some ()
  | _ => none

/-! ## Levels -/

/-- The levels that a program may have. -/
def maxLevels : Nat := 1023

/-- Reads what lies one level further down. -/
def descend {α : Type} (levels : Nat) (read : Nat → Option α) : Option α :=
  match levels with
  | 0 => none
  | levels + 1 => read levels

@[simp]
theorem descend_zero {α : Type} (read : Nat → Option α) : descend 0 read = none := rfl

@[simp]
theorem descend_succ {α : Type} (levels : Nat) (read : Nat → Option α) :
    descend (levels + 1) read = read levels := rfl

/-! ## Values and operands -/

def valueVariants : List String := ["Nil", "Bool", "Int", "Float", "String", "List", "Map"]

def operandVariants : List String := ["Literal", "Expr"]

def callFieldNames : List String := ["operator", "args"]

mutual

def toValue? (levels : Nat) : Item → Option Value
  | .map [(id, content)] =>
      match variantNumber? valueVariants id with
      | some 0 => (toUnit? content).map fun _ => .nil
      | some 1 => (toBool? content).map .bool
      | some 2 => (toInt? content).map .int
      | some 3 => (toDouble? content).map .float
      | some 4 => (toString? content).map .string
      | some 5 =>
          match content with
          | .array items => (descend levels fun levels => toValues? levels items).map .list
          | .binary [] => some (.list [])
          | _ => none
      | some 6 =>
          match content with
          | .array items =>
              (descend levels fun levels => toPairs? levels items).map fun pairs =>
                .map (Entries.ofPairs pairs)
          | .binary [] => some (.map (Entries.ofPairs []))
          | _ => none
      | _ => none
  | item => if variantNumber? valueVariants item = some 0 then some .nil else none

def toValues? (levels : Nat) : List Item → Option (List Value)
  | [] => some []
  | item :: rest =>
      match toValue? levels item, toValues? levels rest with
      | some value, some values => some (value :: values)
      | _, _ => none

def toPairs? (levels : Nat) : List Item → Option (List (Value × Value))
  | [] => some []
  | .array [key, value] :: rest =>
      let pair := descend levels fun levels =>
        match toValue? levels key, toValue? levels value with
        | some key, some value => some (key, value)
        | _, _ => none
      match pair, toPairs? levels rest with
      | some pair, some pairs => some (pair :: pairs)
      | _, _ => none
  | _ => none

end

/-- A name alone is a variant without content, of which there is one. -/
theorem toValue?_name (levels : Nat) (bytes : Bytes) :
    toValue? levels (.string bytes) =
      if variantNumber? valueVariants (.string bytes) = some 0 then some .nil else none := by
  rw [toValue?]
  nofun

/-- The fields of a call as far as they have been read. -/
structure CallFields where
  function : Option String := none
  arguments : Option (List Operand) := none

mutual

def toOperand? (levels : Nat) : Item → Option Operand
  | .map [(id, content)] =>
      match variantNumber? operandVariants id with
      | some 0 => (toValue? levels content).map .literal
      | some 1 => descend levels fun levels => toCall? levels content
      | _ => none
  | _ => none

def toCall? (levels : Nat) : Item → Option Operand
  | .array [function, arguments] =>
      match toString? function, toArguments? levels arguments with
      | some function, some arguments => some (.call function arguments)
      | _, _ => none
  | .map entries =>
      match toCallFields? levels entries with
      | some ⟨some function, some arguments⟩ => some (.call function arguments)
      | _ => none
  | _ => none

def toArguments? (levels : Nat) : Item → Option (List Operand)
  | .array items => descend levels fun levels => toOperands? levels items
  | .binary [] => some []
  | _ => none

def toOperands? (levels : Nat) : List Item → Option (List Operand)
  | [] => some []
  | item :: rest =>
      match toOperand? levels item, toOperands? levels rest with
      | some operand, some operands => some (operand :: operands)
      | _, _ => none

/-- A field that stands twice is refused. -/
def toCallFields? (levels : Nat) : List (Item × Item) → Option CallFields
  | [] => some {}
  | (key, item) :: rest =>
      match toCallFields? levels rest, identify callFieldNames key with
      | some fields, some (some 0) =>
          match fields.function, toString? item with
          | none, some function => some { fields with function := some function }
          | _, _ => none
      | some fields, some (some _) =>
          match fields.arguments, toArguments? levels item with
          | none, some arguments => some { fields with arguments := some arguments }
          | _, _ => none
      | some fields, some none => if item.depth ≤ levels then some fields else none
      | _, _ => none

end

/-! ## Instructions -/

/-- Adds a field to those that follow it. -/
def addField (levels : Nat) (names : List String) (key item : Item)
    (fields : List (Option Item)) : Option (List (Option Item)) :=
  match identify names key with
  | none => none
  | some none => if item.depth ≤ levels then some fields else none
  | some (some number) =>
      if (fields[number]?.join).isSome then none else some (fields.set number (some item))

/-- The first of some items, one for each name; `none` stands for a missing one. -/
def inOrder (names : List String) (items : List Item) : List (Option Item) :=
  ((items.map some) ++ names.map fun _ => none).take names.length

/-- The fields with some names, in the order of the names. Bytes after the last field are passed
over. -/
def toFields? (levels : Nat) (names : List String) : Item → Option (List (Option Item))
  | .array items => if items.length ≤ names.length then some (inOrder names items) else none
  | .binary bytes => some (inOrder names (bytes.map fun byte => .unsigned byte.toUInt64))
  | .map entries =>
      entries.foldr (fun entry fields => fields.bind (addField levels names entry.1 entry.2))
        (some (inOrder names []))
  | _ => none

/-- A flag that may be missing. -/
def toFlag? : Option Item → Option Bool
  | none => some false
  | some item => toBool? item

def toArgument? (levels : Nat) : Item → Option (String × Value)
  | .array [name, value] =>
      descend levels fun levels =>
        match toString? name, toValue? levels value with
        | some name, some value => some (name, value)
        | _, _ => none
  | _ => none

/-- Arguments may be missing; of two with one name the later one counts. -/
def toArgs? (levels : Nat) : Option Item → Option ComponentArgs
  | none | some (.binary []) => some .empty
  | some (.array items) =>
      descend levels fun levels => (items.mapM (toArgument? levels)).map .ofList
  | some _ => none

def toAssignment? (levels : Nat) (make : String → Operand → Bool → Instruction) (content : Item) :
    Option Instruction := do
  let [some name, some value, embedded] ← toFields? levels ["name", "value", "eval"] content
    | none
  return make (← toString? name) (← toOperand? levels value) (← toFlag? embedded)

def toJump? (levels : Nat) (make : UInt64 → Instruction) (content : Item) : Option Instruction := do
  let [some target] ← toFields? levels ["target"] content | none
  return make (← toTarget? target)

def toCondGoto? (levels : Nat) (content : Item) : Option Instruction := do
  let [some target, some condition, embedded] ←
    toFields? levels ["target", "condition", "eval"] content | none
  return .condGoto (← toTarget? target) (← toOperand? levels condition) (← toFlag? embedded)

def toCallComponent? (levels : Nat) (content : Item) : Option Instruction := do
  let [some name, args] ← toFields? levels ["name", "args"] content | none
  return .callComponent (← toString? name) (← toArgs? levels args)

def opcodes : List String :=
  ["SET_STATIC_VAR", "SET_REACTIVE_VAR", "GOTO", "COND_GOTO", "CALL", "RETURN", "CALL_COMPONENT"]

def toInstruction? (levels : Nat) : Item → Option Instruction
  | .map [(id, content)] =>
      descend levels fun levels =>
        match variantNumber? opcodes id with
        | some 0 => toAssignment? levels .setStatic content
        | some 1 => toAssignment? levels .setReactive content
        | some 2 => toJump? levels .goto content
        | some 3 => toCondGoto? levels content
        | some 4 => toJump? levels .call content
        | some 5 => (toUnit? content).map fun _ => .ret
        | some 6 => toCallComponent? levels content
        | _ => none
  | item => if variantNumber? opcodes item = some 5 then some .ret else none

def toProgram? : Item → Option Program
  | .array items => descend maxLevels fun levels => items.mapM (toInstruction? levels)
  | .binary [] => some []
  | _ => none

end ProgramFile

end DialogueEngine
