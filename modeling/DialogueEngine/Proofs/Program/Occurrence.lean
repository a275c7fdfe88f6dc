import DialogueEngine.Program.Basic

/-!
# Values that occur in a program

A program contains values in the literals of its operands and in the arguments of its components,
and values contain values in lists and in the keys and contents of maps.
-/

namespace DialogueEngine

/-- The value is another one, or occurs somewhere in it. -/
inductive Value.Occurs (v : Value) : Value → Prop where
  | self : Occurs v v
  | item {items : List Value} {item : Value} (mem : item ∈ items) (inner : Occurs v item) :
      Occurs v (.list items)
  | key {entries : List (Value × Value)} {entry : Value × Value} (mem : entry ∈ entries)
      (inner : Occurs v entry.1) : Occurs v (.map entries)
  | content {entries : List (Value × Value)} {entry : Value × Value} (mem : entry ∈ entries)
      (inner : Occurs v entry.2) : Occurs v (.map entries)

/-- The value occurs in a literal, at any depth of an operand. -/
inductive Operand.Occurs (v : Value) : Operand → Prop where
  | literal {value : Value} (inner : v.Occurs value) : Occurs v (.literal value)
  | argument {function : String} {arguments : List Operand} {argument : Operand}
      (mem : argument ∈ arguments) (inner : Occurs v argument) :
      Occurs v (.call function arguments)

/-- The value occurs in the operand or in an argument of an instruction. -/
inductive Instruction.Occurs (v : Value) : Instruction → Prop where
  | operand {instruction : Instruction} {operand : Operand}
      (evaluates : instruction.operand? = some operand) (inner : operand.Occurs v) :
      Occurs v instruction
  | argument {name : String} {args : ComponentArgs} {entry : String × Value}
      (mem : entry ∈ args.bindings) (inner : v.Occurs entry.2) :
      Occurs v (.callComponent name args)

def Program.Occurs (v : Value) (program : Program) : Prop :=
  ∃ instruction ∈ program, Instruction.Occurs v instruction

/-! ## Maps throughout a program -/

section

variable (property : List (Value × Value) → Prop)

/-- Every map in the value has entries with a property. -/
def Value.Throughout (value : Value) : Prop :=
  ∀ entries, Value.Occurs (.map entries) value → property entries

/-- Every map in the operand has entries with a property. -/
def Operand.Throughout (operand : Operand) : Prop :=
  ∀ entries, operand.Occurs (.map entries) → property entries

/-- Every map in the instruction has entries with a property. -/
def Instruction.Throughout (instruction : Instruction) : Prop :=
  ∀ entries, instruction.Occurs (.map entries) → property entries

/-- Every map in the program has entries with a property. -/
def Program.Throughout (program : Program) : Prop :=
  ∀ entries, Program.Occurs (.map entries) program → property entries

end

section

variable {property : List (Value × Value) → Prop}

namespace Value

theorem Throughout.item {items : List Value} (all : Throughout property (list items)) :
    ∀ item ∈ items, Throughout property item :=
  fun _ mem entries inner => all entries (.item mem inner)

theorem Throughout.entry {entries : List (Value × Value)}
    (all : Throughout property (map entries)) :
    ∀ entry ∈ entries, Throughout property entry.1 ∧ Throughout property entry.2 :=
  fun _ mem => ⟨fun entries inner => all entries (.key mem inner),
    fun entries inner => all entries (.content mem inner)⟩

theorem throughout_list {items : List Value} (all : ∀ item ∈ items, Throughout property item) :
    Throughout property (list items) := by
  rintro entries (_ | ⟨mem, inner⟩)
  exact all _ mem entries inner

theorem throughout_map {entries : List (Value × Value)} (outer : property entries)
    (all : ∀ entry ∈ entries, Throughout property entry.1 ∧ Throughout property entry.2) :
    Throughout property (map entries) := by
  rintro others (_ | _ | ⟨mem, inner⟩ | ⟨mem, inner⟩)
  · exact outer
  · exact (all _ mem).1 others inner
  · exact (all _ mem).2 others inner

end Value

namespace Operand

theorem Throughout.literal {value : Value} (all : (literal value).Throughout property) :
    value.Throughout property := fun entries inner => all entries (.literal inner)

theorem Throughout.argument {function : String} {arguments : List Operand}
    (all : (call function arguments).Throughout property) :
    ∀ argument ∈ arguments, argument.Throughout property :=
  fun _ mem entries inner => all entries (.argument mem inner)

theorem throughout_literal {value : Value} (all : value.Throughout property) :
    (literal value).Throughout property := by
  rintro entries ⟨inner⟩
  exact all entries inner

theorem throughout_call {function : String} {arguments : List Operand}
    (all : ∀ argument ∈ arguments, argument.Throughout property) :
    (call function arguments).Throughout property := by
  rintro entries (_ | ⟨mem, inner⟩)
  exact all _ mem entries inner

end Operand

namespace Instruction

theorem Throughout.operand {instruction : Instruction} {operand : Operand}
    (all : instruction.Throughout property) (evaluates : instruction.operand? = some operand) :
    operand.Throughout property := fun entries inner => all entries (.operand evaluates inner)

theorem Throughout.argument {name : String} {args : ComponentArgs}
    (all : (callComponent name args).Throughout property) :
    ∀ binding ∈ args.bindings, binding.2.Throughout property :=
  fun _ mem entries inner => all entries (.argument mem inner)

/-- An instruction that is no call of a component has nothing but its operand. -/
theorem throughout_of_operand {instruction : Instruction}
    (plain : ∀ name args, instruction ≠ callComponent name args)
    (all : ∀ operand, instruction.operand? = some operand → operand.Throughout property) :
    instruction.Throughout property := by
  rintro entries (⟨evaluates, inner⟩ | ⟨_, _⟩)
  · exact all _ evaluates entries inner
  · exact absurd rfl (plain _ _)

theorem throughout_callComponent {name : String} {args : ComponentArgs}
    (all : ∀ binding ∈ args.bindings, binding.2.Throughout property) :
    (callComponent name args).Throughout property := by
  rintro entries (⟨evaluates, _⟩ | ⟨mem, inner⟩)
  · cases evaluates
  · exact all _ mem entries inner

end Instruction

namespace Program

theorem Throughout.instruction {program : Program} (all : program.Throughout property) :
    ∀ instruction ∈ program, instruction.Throughout property :=
  fun instruction mem entries inner => all entries ⟨instruction, mem, inner⟩

theorem throughout_of_forall {program : Program}
    (all : ∀ instruction ∈ program, instruction.Throughout property) :
    program.Throughout property := by
  rintro entries ⟨instruction, mem, inner⟩
  exact all instruction mem entries inner

end Program

end

end DialogueEngine
