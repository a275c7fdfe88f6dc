import DialogueEngine.ProgramFile.Basic
import DialogueEngine.Proofs.Program.Occurrence

/-!
# Programs that can be written

A program has a form in MessagePack unless a host object occurs in it, wherever that may be.
-/

namespace DialogueEngine

/-- No host object occurs in the value. -/
def Value.Storable (value : Value) : Prop := ∀ name, ¬ Occurs (.hostObject name) value

def Operand.Storable (operand : Operand) : Prop := ∀ name, ¬ operand.Occurs (.hostObject name)

def Instruction.Storable (instruction : Instruction) : Prop :=
  ∀ name, ¬ instruction.Occurs (.hostObject name)

def Program.Storable (program : Program) : Prop :=
  ∀ name, ¬ Program.Occurs (.hostObject name) program

namespace Value

theorem storable_list_iff {items : List Value} :
    (list items).Storable ↔ ∀ item ∈ items, item.Storable := by
  constructor
  · intro storable item mem name inner
    exact storable name (.item mem inner)
  · intro storable name occurs
    cases occurs with
    | item mem inner => exact storable _ mem name inner

theorem storable_map_iff {entries : List (Value × Value)} :
    (map entries).Storable ↔ ∀ entry ∈ entries, entry.1.Storable ∧ entry.2.Storable := by
  constructor
  · intro storable entry mem
    constructor
    · intro name inner
      exact storable name (.key mem inner)
    · intro name inner
      exact storable name (.content mem inner)
  · intro storable name occurs
    cases occurs with
    | key mem inner => exact (storable _ mem).1 name inner
    | content mem inner => exact (storable _ mem).2 name inner

end Value

namespace Operand

theorem storable_literal_iff {value : Value} : (literal value).Storable ↔ value.Storable := by
  constructor
  · intro storable name inner
    exact storable name (.literal inner)
  · intro storable name occurs
    cases occurs with
    | literal inner => exact storable name inner

theorem storable_call_iff {function : String} {arguments : List Operand} :
    (call function arguments).Storable ↔ ∀ argument ∈ arguments, argument.Storable := by
  constructor
  · intro storable argument mem name inner
    exact storable name (.argument mem inner)
  · intro storable name occurs
    cases occurs with
    | argument mem inner => exact storable _ mem name inner

end Operand

namespace Instruction

theorem storable_iff_of_operand {instruction : Instruction} {operand : Operand}
    (evaluates : instruction.operand? = some operand) :
    instruction.Storable ↔ operand.Storable := by
  constructor
  · intro storable name inner
    exact storable name (.operand evaluates inner)
  · intro storable name occurs
    cases occurs with
    | operand same inner =>
      rw [evaluates] at same
      cases same
      exact storable name inner
    | argument => cases evaluates

theorem storable_callComponent_iff {name : String} {args : ComponentArgs} :
    (callComponent name args).Storable ↔ ∀ entry ∈ args.entries, entry.2.Storable := by
  constructor
  · intro storable entry mem object inner
    exact storable object (.argument (ComponentArgs.mem_entries.mp mem) inner)
  · intro storable object occurs
    cases occurs with
    | operand evaluates => cases evaluates
    | argument mem inner => exact storable _ (ComponentArgs.mem_entries.mpr mem) object inner

end Instruction

namespace ProgramFile

mutual

theorem isSome_ofValue?_iff : ∀ value : Value, (ofValue? value).isSome ↔ value.Storable
  | .nil | .bool _ | .int _ | .float _ | .string _ => by
    rw [ofValue?, Option.isSome_some]
    exact iff_of_true rfl nofun
  | .list items => by
    rw [ofValue?, Option.isSome_map, isSome_ofValues?_iff items, Value.storable_list_iff]
  | .map entries => by
    rw [ofValue?, Option.isSome_map, isSome_ofEntries?_iff entries, Value.storable_map_iff]
  | .hostObject name => by
    rw [ofValue?]
    exact iff_of_false nofun fun storable => storable name .self

theorem isSome_ofValues?_iff :
    ∀ items : List Value, (ofValues? items).isSome ↔ ∀ item ∈ items, item.Storable
  | [] => by
    rw [ofValues?, Option.isSome_some]
    exact iff_of_true rfl nofun
  | value :: rest => by
    rw [List.forall_mem_cons, ← isSome_ofValue?_iff value, ← isSome_ofValues?_iff rest, ofValues?]
    cases ofValue? value <;> cases ofValues? rest <;> simp

theorem isSome_ofEntries?_iff :
    ∀ entries : List (Value × Value),
      (ofEntries? entries).isSome ↔ ∀ entry ∈ entries, entry.1.Storable ∧ entry.2.Storable
  | [] => by
    rw [ofEntries?, Option.isSome_some]
    exact iff_of_true rfl nofun
  | (key, value) :: rest => by
    rw [List.forall_mem_cons, ← isSome_ofValue?_iff key, ← isSome_ofValue?_iff value,
      ← isSome_ofEntries?_iff rest, ofEntries?]
    cases ofValue? key <;> cases ofValue? value <;> cases ofEntries? rest <;> simp

end

mutual

theorem isSome_ofOperand?_iff :
    ∀ operand : Operand, (ofOperand? operand).isSome ↔ operand.Storable
  | .literal value => by
    rw [ofOperand?, Option.isSome_map, isSome_ofValue?_iff, Operand.storable_literal_iff]
  | .call function arguments => by
    rw [ofOperand?, Option.isSome_map, isSome_ofOperands?_iff arguments,
      Operand.storable_call_iff]

theorem isSome_ofOperands?_iff :
    ∀ operands : List Operand,
      (ofOperands? operands).isSome ↔ ∀ operand ∈ operands, operand.Storable
  | [] => by
    rw [ofOperands?, Option.isSome_some]
    exact iff_of_true rfl nofun
  | operand :: rest => by
    rw [List.forall_mem_cons, ← isSome_ofOperand?_iff operand, ← isSome_ofOperands?_iff rest,
      ofOperands?]
    cases ofOperand? operand <;> cases ofOperands? rest <;> simp

end

theorem isSome_mapM_iff {α β : Type} {f : α → Option β} {items : List α} :
    (items.mapM f).isSome ↔ ∀ item ∈ items, (f item).isSome := by
  induction items with
  | nil => exact iff_of_true rfl nofun
  | cons item rest ih =>
    rw [List.forall_mem_cons, ← ih, List.mapM_cons]
    cases f item with
    | none => exact iff_of_false nofun fun both => nomatch both.1
    | some item => cases rest.mapM f <;> simp

theorem isSome_ofInstruction?_iff (instruction : Instruction) :
    (ofInstruction? instruction).isSome ↔ instruction.Storable := by
  cases instruction with
  | setStatic name operand embedded | setReactive name operand embedded =>
    rw [ofInstruction?, Option.isSome_map, ofAssignment?, Option.isSome_map, isSome_ofOperand?_iff,
      Instruction.storable_iff_of_operand rfl]
  | goto target | call target =>
    refine iff_of_true rfl ?_
    rintro name ⟨evaluates⟩
    cases evaluates
  | condGoto target operand embedded =>
    rw [ofInstruction?, Option.isSome_map, isSome_ofOperand?_iff,
      Instruction.storable_iff_of_operand rfl]
  | ret =>
    refine iff_of_true rfl ?_
    rintro name ⟨evaluates⟩
    cases evaluates
  | callComponent name args =>
    rw [ofInstruction?, Option.isSome_map, ofArgs?, Option.isSome_map, isSome_mapM_iff,
      Instruction.storable_callComponent_iff]
    simp only [Option.isSome_map, isSome_ofValue?_iff]

theorem isSome_ofProgram?_iff (program : Program) :
    (ofProgram? program).isSome ↔ Program.Storable program := by
  rw [ofProgram?, Option.isSome_map, isSome_mapM_iff]
  simp only [isSome_ofInstruction?_iff]
  constructor
  · rintro storable name ⟨instruction, mem, occurs⟩
    exact storable instruction mem name occurs
  · intro storable instruction mem name occurs
    exact storable name ⟨instruction, mem, occurs⟩

/-- A program is written if and only if no host object occurs in it. -/
theorem exists_encode_iff (program : Program) :
    (∃ bytes, encode program = .ok bytes) ↔ Program.Storable program := by
  rw [← isSome_ofProgram?_iff, encode]
  cases ofProgram? program with
  | none => exact iff_of_false nofun nofun
  | some item => exact iff_of_true ⟨_, rfl⟩ rfl

end ProgramFile

end DialogueEngine
