import DialogueEngine.ProgramFile.Basic

/-!
# Levels

How many levels reading has to go down for a program. The item of a program is not much more than
twice as deep as that, because around every level lies at most the map of a variant.
-/

namespace DialogueEngine

/-- The greatest of some numbers, or zero. -/
def greatest (numbers : List Nat) : Nat := numbers.foldr max 0

@[simp]
theorem greatest_nil : greatest [] = 0 := rfl

@[simp]
theorem greatest_cons (n : Nat) (numbers : List Nat) :
    greatest (n :: numbers) = max n (greatest numbers) := rfl

namespace Value

mutual

/-- Lists, maps and the pairs in maps are a level each. -/
def levels : Value → Nat
  | list items => levelsItems items + 1
  | map entries => levelsEntries entries + 1
  | nil | bool _ | int _ | float _ | string _ | hostObject _ => 0

def levelsItems : List Value → Nat
  | [] => 0
  | value :: rest => max (levels value) (levelsItems rest)

def levelsEntries : List (Value × Value) → Nat
  | [] => 0
  | (key, value) :: rest => max (max (levels key) (levels value) + 1) (levelsEntries rest)

end

end Value

namespace Operand

mutual

/-- The fields of a call and its list of arguments are a level each. -/
def levels : Operand → Nat
  | literal value => value.levels
  | call _ arguments => levelsList arguments + 2

def levelsList : List Operand → Nat
  | [] => 0
  | operand :: rest => max (levels operand) (levelsList rest)

end

end Operand

def ComponentArgs.levels (args : ComponentArgs) : Nat :=
  greatest (args.entries.map fun entry => entry.2.levels + 1) + 1

/-- The fields of an instruction are a level; `RETURN` has none. -/
def Instruction.levels : Instruction → Nat
  | setStatic _ operand _ | setReactive _ operand _ | condGoto _ operand _ => operand.levels + 1
  | goto _ | call _ => 1
  | ret => 0
  | callComponent _ args => ComponentArgs.levels args + 1

def Program.levels (program : Program) : Nat := greatest (program.map Instruction.levels) + 1

namespace ProgramFile

open MessagePack (Item)

theorem depth_variant (name : String) (content : Item) :
    (variant name content).depth = content.depth + 1 := by
  simp [variant, Item.depth, Item.depthEntries, Item.text]

theorem depthEntries_fields (fields : List (String × Item)) :
    Item.depthEntries (fields.map fun field => (.text field.1, field.2)) =
      greatest (fields.map fun field => field.2.depth) := by
  induction fields with
  | nil => rfl
  | cons field rest ih =>
    rw [List.map_cons, List.map_cons, Item.depthEntries, ih, Item.text, greatest_cons]
    simp [Item.depth]

theorem depth_record (fields : List (String × Item)) :
    (record fields).depth = greatest (fields.map fun field => field.2.depth) + 1 := by
  rw [record, Item.depth, depthEntries_fields]

theorem depth_text (s : String) : (Item.text s).depth = 0 := by
  rw [Item.text]
  rfl

theorem depth_pairItem (key value : Item) :
    (pairItem key value).depth = max key.depth value.depth + 1 := by
  simp [pairItem, Item.depth, Item.depthItems]

mutual

theorem depth_ofValue? : ∀ {value : Value} {item : Item}, ofValue? value = some item →
    item.depth ≤ 2 * value.levels + 1
  | .nil, item, h | .bool _, item, h | .int _, item, h | .float _, item, h
  | .string _, item, h => by
    rw [ofValue?] at h
    cases h
    simp [depth_variant, Item.depth, Item.text]
  | .list items, item, h => by
    rw [ofValue?] at h
    obtain ⟨contents, found, rfl⟩ := Option.map_eq_some_iff.mp h
    have inner := depth_ofValues? found
    rw [depth_variant, Item.depth, Value.levels]
    omega
  | .map entries, item, h => by
    rw [ofValue?] at h
    obtain ⟨contents, found, rfl⟩ := Option.map_eq_some_iff.mp h
    have inner := depth_ofEntries? found
    rw [depth_variant, Item.depth, Value.levels]
    omega
  | .hostObject name, item, h => by
    rw [ofValue?] at h
    cases h

theorem depth_ofValues? : ∀ {values : List Value} {items : List Item},
    ofValues? values = some items →
      Item.depthItems items ≤ 2 * Value.levelsItems values + 1
  | [], items, h => by
    cases h
    exact Nat.zero_le _
  | value :: rest, items, h => by
    rw [ofValues?] at h
    split at h
    · next item others first found =>
      cases h
      have head := depth_ofValue? first
      have tail := depth_ofValues? found
      rw [Item.depthItems, Value.levelsItems]
      omega
    · cases h

theorem depth_ofEntries? : ∀ {entries : List (Value × Value)} {items : List Item},
    ofEntries? entries = some items →
      Item.depthItems items ≤ 2 * Value.levelsEntries entries
  | [], items, h => by
    cases h
    exact Nat.zero_le _
  | (key, value) :: rest, items, h => by
    rw [ofEntries?] at h
    split at h
    · next key' value' others first second found =>
      cases h
      have atKey := depth_ofValue? first
      have atValue := depth_ofValue? second
      have tail := depth_ofEntries? found
      rw [Item.depthItems, Value.levelsEntries, depth_pairItem]
      omega
    · cases h

end

mutual

theorem depth_ofOperand? : ∀ {operand : Operand} {item : Item}, ofOperand? operand = some item →
    item.depth ≤ 2 * operand.levels + 2
  | .literal value, item, h => by
    rw [ofOperand?] at h
    obtain ⟨content, found, rfl⟩ := Option.map_eq_some_iff.mp h
    have inner := depth_ofValue? found
    rw [depth_variant, Operand.levels]
    omega
  | .call function arguments, item, h => by
    rw [ofOperand?] at h
    obtain ⟨contents, found, rfl⟩ := Option.map_eq_some_iff.mp h
    have inner := depth_ofOperands? found
    simp only [depth_variant, depth_record, List.map_cons, List.map_nil, greatest_cons,
      greatest_nil, depth_text, Item.depth, Operand.levels]
    omega

theorem depth_ofOperands? : ∀ {operands : List Operand} {items : List Item},
    ofOperands? operands = some items →
      Item.depthItems items ≤ 2 * Operand.levelsList operands + 2
  | [], items, h => by
    cases h
    exact Nat.zero_le _
  | operand :: rest, items, h => by
    rw [ofOperands?] at h
    split at h
    · next item others first found =>
      cases h
      have head := depth_ofOperand? first
      have tail := depth_ofOperands? found
      rw [Item.depthItems, Operand.levelsList]
      omega
    · cases h

end

/-- Items that are each at most so deep as the number for them says are so all together. -/
theorem depthItems_of_mapM {α : Type} {f : α → Option Item} {bound : α → Nat} {surplus : Nat}
    (each : ∀ a item, f a = some item → item.depth ≤ 2 * bound a + surplus) {as : List α}
    {items : List Item} (h : as.mapM f = some items) :
    Item.depthItems items ≤ 2 * greatest (as.map bound) + surplus := by
  induction as generalizing items with
  | nil =>
    cases h
    exact Nat.zero_le _
  | cons a rest ih =>
    rw [List.mapM_cons] at h
    obtain ⟨item, first, h⟩ := Option.bind_eq_some_iff.mp h
    obtain ⟨others, found, h⟩ := Option.bind_eq_some_iff.mp h
    cases h
    have head := each a item first
    have tail := ih found
    rw [Item.depthItems, List.map_cons, greatest_cons]
    omega

theorem depth_ofArgs? {args : ComponentArgs} {item : Item} (h : ofArgs? args = some item) :
    item.depth ≤ 2 * ComponentArgs.levels args + 2 := by
  rw [ofArgs?] at h
  obtain ⟨items, found, rfl⟩ := Option.map_eq_some_iff.mp h
  have inner : Item.depthItems items ≤
      2 * greatest (args.entries.map fun entry => entry.2.levels + 1) + 0 := by
    refine depthItems_of_mapM ?_ found
    intro entry item made
    obtain ⟨content, stored, rfl⟩ := Option.map_eq_some_iff.mp made
    have atValue := depth_ofValue? stored
    rw [depth_pairItem, depth_text]
    omega
  rw [Item.depth, ComponentArgs.levels]
  omega

theorem depth_ofInstruction? {instruction : Instruction} {item : Item}
    (h : ofInstruction? instruction = some item) : item.depth ≤ 2 * instruction.levels + 2 := by
  cases instruction with
  | setStatic name operand embedded | setReactive name operand embedded =>
    rw [ofInstruction?, ofAssignment?] at h
    obtain ⟨content, made, rfl⟩ := Option.map_eq_some_iff.mp h
    obtain ⟨value, found, rfl⟩ := Option.map_eq_some_iff.mp made
    have inner := depth_ofOperand? found
    simp only [depth_variant, depth_record, List.map_cons, List.map_nil, greatest_cons,
      greatest_nil, depth_text, Item.depth, Instruction.levels]
    omega
  | goto target | call target =>
    cases h
    simp [depth_variant, depth_record, ofTarget, Item.depth, Instruction.levels]
  | condGoto target operand embedded =>
    rw [ofInstruction?] at h
    obtain ⟨condition, found, rfl⟩ := Option.map_eq_some_iff.mp h
    have inner := depth_ofOperand? found
    simp only [depth_variant, depth_record, List.map_cons, List.map_nil, greatest_cons,
      greatest_nil, ofTarget, Item.depth, Instruction.levels]
    omega
  | ret =>
    cases h
    simp [depth_text]
  | callComponent name args =>
    rw [ofInstruction?] at h
    obtain ⟨content, found, rfl⟩ := Option.map_eq_some_iff.mp h
    have inner := depth_ofArgs? found
    simp only [depth_variant, depth_record, List.map_cons, List.map_nil, greatest_cons,
      greatest_nil, depth_text, Instruction.levels]
    omega

theorem depth_ofProgram? {program : Program} {item : Item} (h : ofProgram? program = some item) :
    item.depth ≤ 2 * Program.levels program + 1 := by
  rw [ofProgram?] at h
  obtain ⟨items, found, rfl⟩ := Option.map_eq_some_iff.mp h
  have inner : Item.depthItems items ≤ 2 * greatest (program.map Instruction.levels) + 2 :=
    depthItems_of_mapM (fun _ _ => depth_ofInstruction?) found
  rw [Item.depth, Program.levels]
  omega

end ProgramFile

end DialogueEngine
