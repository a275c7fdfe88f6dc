import DialogueEngine.Proofs.ProgramFile.RoundTrip
import Mathlib.Data.List.Forall2
import Mathlib.Data.List.Permutation

/-!
# Rearranged program files

In a program file the fields of instructions and calls may stand in any order, and those may be left
out without which the same is read. Such a file still holds the program that has been written to it.
-/

namespace DialogueEngine.ProgramFile

open MessagePack (Item utf8)
open MessagePack.Item (FitItems FitEntries normalItems normalEntries)

mutual

/-- The same operand with the fields of each call in some order. -/
inductive OperandVaries : Item → Item → Prop where
  | literal (content : Item) :
      OperandVaries (variant "Literal" content) (variant "Literal" content)
  | call {function : Item} {items others : List Item} {fields : List (String × Item)}
      (arguments : OperandsVary items others)
      (order : fields.Perm [("operator", function), ("args", .array others)]) :
      OperandVaries (variant "Expr" (record [("operator", function), ("args", .array items)]))
        (variant "Expr" (record fields))

inductive OperandsVary : List Item → List Item → Prop where
  | nil : OperandsVary [] []
  | cons {item other : Item} {items others : List Item} (first : OperandVaries item other)
      (rest : OperandsVary items others) : OperandsVary (item :: items) (other :: others)

end

/-- The same field of an instruction, with an operand that may vary. -/
inductive FieldVaries : String × Item → String × Item → Prop where
  | same (field : String × Item) : FieldVaries field field
  | operand (name : String) {item other : Item} (varies : OperandVaries item other) :
      FieldVaries (name, item) (name, other)

/-- The fields that may be left out. -/
def Omissible (opcode : String) (field : String × Item) : Prop :=
  field = ("eval", .bool false) ∨ opcode = "CALL_COMPONENT" ∧ field = ("args", .array [])

/-- The fields of an instruction in some order, without some of those that may be left out. -/
def Arranged (opcode : String) (fields kept : List (String × Item)) : Prop :=
  ∃ others left, List.Forall₂ FieldVaries fields others ∧ (kept ++ left).Perm others ∧
    ∀ field ∈ left, Omissible opcode field

/-- The same instruction with its fields in some order. -/
inductive InstructionVaries : Item → Item → Prop where
  | bare (opcode : String) : InstructionVaries (.text opcode) (.text opcode)
  | fields {opcode : String} {fields kept : List (String × Item)}
      (arranged : Arranged opcode fields kept) :
      InstructionVaries (variant opcode (record fields)) (variant opcode (record kept))

/-- The same program with the fields of each instruction and of each call in some order. -/
inductive Rearranged : Item → Item → Prop where
  | program {items others : List Item}
      (instructions : List.Forall₂ InstructionVaries items others) :
      Rearranged (.array items) (.array others)

/-! ## Size -/

/-- What varies is neither longer nor deeper than the original. -/
structure Bounds (item other : Item) : Prop where
  fits : item.Fits → other.Fits
  depth : other.depth ≤ item.depth

theorem Bounds.refl (item : Item) : Bounds item item := ⟨id, Nat.le_refl _⟩

theorem fits_variant_iff {name : String} {content : Item} :
    (variant name content).Fits ↔ (utf8 name).length < 2 ^ 32 ∧ content.Fits := by
  simp [variant, Item.Fits, Item.FitEntries, Item.text]

theorem Bounds.variant {item other : Item} (bounds : Bounds item other) (name : String) :
    Bounds (variant name item) (variant name other) where
  fits := by
    intro fits
    obtain ⟨short, fits⟩ := fits_variant_iff.mp fits
    exact fits_variant_iff.mpr ⟨short, bounds.fits fits⟩
  depth := by
    rw [depth_variant, depth_variant]
    exact Nat.succ_le_succ bounds.depth

theorem fits_record_iff {fields : List (String × Item)} :
    (record fields).Fits ↔ fields.length < 2 ^ 32 ∧
      ∀ field ∈ fields, (utf8 field.1).length < 2 ^ 32 ∧ field.2.Fits := by
  have entries (fields : List (String × Item)) :
      FitEntries (fields.map fun field => (.text field.1, field.2)) ↔
        ∀ field ∈ fields, (utf8 field.1).length < 2 ^ 32 ∧ field.2.Fits := by
    induction fields with
    | nil => exact iff_of_true trivial nofun
    | cons field rest ih =>
      rw [List.map_cons, FitEntries, ih, List.forall_mem_cons, Item.text, Item.Fits, and_assoc]
  rw [record, Item.Fits, entries, List.length_map]

theorem greatest_le_iff {numbers : List Nat} {bound : Nat} :
    greatest numbers ≤ bound ↔ ∀ n ∈ numbers, n ≤ bound := by
  induction numbers with
  | nil => exact iff_of_true (Nat.zero_le _) nofun
  | cons n numbers ih => rw [greatest_cons, Nat.max_le, ih, List.forall_mem_cons]

/-- Fields that stem from those of a record, no more in number, make no bigger record. -/
theorem Bounds.record {fields kept : List (String × Item)} (short : kept.length ≤ fields.length)
    (each : ∀ other ∈ kept, ∃ field ∈ fields, field.1 = other.1 ∧ Bounds field.2 other.2) :
    Bounds (record fields) (record kept) where
  fits := by
    intro fits
    obtain ⟨long, fit⟩ := fits_record_iff.mp fits
    refine fits_record_iff.mpr ⟨Nat.lt_of_le_of_lt short long, ?_⟩
    intro other mem
    obtain ⟨field, found, name, bounds⟩ := each other mem
    obtain ⟨shortName, fits⟩ := fit field found
    exact ⟨name ▸ shortName, bounds.fits fits⟩
  depth := by
    rw [depth_record, depth_record, Nat.add_le_add_iff_right, greatest_le_iff]
    intro n mem
    obtain ⟨other, kept, rfl⟩ := List.mem_map.mp mem
    obtain ⟨field, found, -, bounds⟩ := each other kept
    apply Nat.le_trans bounds.depth
    exact greatest_le_iff.mp (Nat.le_refl _) _ (List.mem_map_of_mem found)

/-- The same of the items of an array. -/
structure BoundsAll (items others : List Item) : Prop where
  length : others.length = items.length
  fit : FitItems items → FitItems others
  depth : Item.depthItems others ≤ Item.depthItems items

theorem BoundsAll.nil : BoundsAll [] [] := ⟨rfl, id, Nat.le_refl _⟩

theorem BoundsAll.cons {item other : Item} {items others : List Item} (first : Bounds item other)
    (rest : BoundsAll items others) : BoundsAll (item :: items) (other :: others) where
  length := congrArg (· + 1) rest.length
  fit := fun fit => ⟨first.fits fit.1, rest.fit fit.2⟩
  depth := by
    rw [Item.depthItems, Item.depthItems]
    have := first.depth
    have := rest.depth
    omega

theorem BoundsAll.array {items others : List Item} (bounds : BoundsAll items others) :
    Bounds (.array items) (.array others) where
  fits := by
    rw [Item.Fits, Item.Fits, bounds.length]
    exact fun fits => ⟨fits.1, bounds.fit fits.2⟩
  depth := by
    rw [Item.depth, Item.depth]
    exact Nat.succ_le_succ bounds.depth

mutual

theorem OperandVaries.bounds : ∀ {item other : Item}, OperandVaries item other → Bounds item other
  | _, _, .literal content => .refl _
  | _, _, @OperandVaries.call function items others fields arguments order => by
    refine Bounds.variant ?_ "Expr"
    refine .record (Nat.le_of_eq order.length_eq) ?_
    intro other mem
    have found := order.mem_iff.mp mem
    rw [List.mem_cons, List.mem_singleton] at found
    rcases found with rfl | rfl
    · exact ⟨_, List.mem_cons_self, rfl, .refl _⟩
    · exact ⟨_, List.mem_cons_of_mem _ (List.mem_singleton_self _), rfl, arguments.bounds.array⟩

theorem OperandsVary.bounds :
    ∀ {items others : List Item}, OperandsVary items others → BoundsAll items others
  | _, _, .nil => .nil
  | _, _, .cons first rest => .cons first.bounds rest.bounds

end

theorem FieldVaries.bounds {field other : String × Item} (varies : FieldVaries field other) :
    field.1 = other.1 ∧ Bounds field.2 other.2 := by
  cases varies with
  | same => exact ⟨rfl, .refl _⟩
  | operand name varies => exact ⟨rfl, varies.bounds⟩

theorem exists_mem_of_forall₂ {α β : Type} {R : α → β → Prop} {as : List α} {bs : List β}
    (each : List.Forall₂ R as bs) {b : β} (mem : b ∈ bs) : ∃ a ∈ as, R a b := by
  induction each with
  | nil => cases mem
  | @cons a first as bs related _ ih =>
    rcases List.mem_cons.mp mem with rfl | mem
    · exact ⟨a, List.mem_cons_self, related⟩
    · obtain ⟨other, found, related⟩ := ih mem
      exact ⟨other, List.mem_cons_of_mem _ found, related⟩

theorem Arranged.bounds {opcode : String} {fields kept : List (String × Item)}
    (arranged : Arranged opcode fields kept) : Bounds (record fields) (record kept) := by
  obtain ⟨others, left, varied, order, -⟩ := arranged
  have length := order.length_eq
  rw [List.length_append, ← varied.length_eq] at length
  refine .record (by omega) ?_
  intro other mem
  have found := order.subset (List.mem_append_left _ mem)
  obtain ⟨field, mem, varies⟩ := exists_mem_of_forall₂ varied found
  exact ⟨field, mem, varies.bounds⟩

theorem InstructionVaries.bounds {item other : Item} (varies : InstructionVaries item other) :
    Bounds item other := by
  cases varies with
  | bare opcode => exact .refl _
  | @fields opcode _ _ arranged => exact arranged.bounds.variant opcode

theorem Rearranged.bounds {item other : Item} (rearranged : Rearranged item other) :
    Bounds item other := by
  cases rearranged with
  | program instructions =>
    refine BoundsAll.array ?_
    induction instructions with
    | nil => exact .nil
    | cons varies _ ih => exact .cons varies.bounds ih

/-! ## Reading -/

/-- Whatever an item is read as, the same is read from another. -/
structure ReadsAlike (item other : Item) : Prop where
  operand (levels : Nat) : toOperand? levels other.normal = toOperand? levels item.normal
  text : toString? other.normal = toString? item.normal
  flag : toBool? other.normal = toBool? item.normal
  target : toTarget? other.normal = toTarget? item.normal
  args (levels : Nat) : toArgs? levels (some other.normal) = toArgs? levels (some item.normal)

theorem ReadsAlike.refl (item : Item) : ReadsAlike item item :=
  ⟨fun _ => rfl, rfl, rfl, rfl, fun _ => rfl⟩

/-- Both fields of a call are read, in either order. -/
theorem toCallFields?_of_perm {levels : Nat} {function arguments other : Item}
    {fields : List (String × Item)} (order : fields.Perm [("operator", function), ("args", other)])
    (same : toArguments? levels other = toArguments? levels arguments) :
    toCallFields? levels (fields.map fun field => (.text field.1, field.2)) =
      toCallFields? levels [(.text "operator", function), (.text "args", arguments)] := by
  have operator : identify callFieldNames (.text "operator") = some (some 0) := identify_text _ _
  have args : identify callFieldNames (.text "args") = some (some 1) := identify_text _ _
  rcases List.perm_pair.mp order with rfl | rfl
  · simp only [List.map_cons, List.map_nil, toCallFields?, operator, args, same]
  · simp only [List.map_cons, List.map_nil, toCallFields?, operator, args, same]
    cases toString? function <;> cases toArguments? levels arguments <;> rfl

theorem toOperand?_expr (levels : Nat) (fields : List (String × Item)) :
    toOperand? levels (variant "Expr" (record fields)) =
      descend levels fun levels => toCall? levels (record fields) := by
  have number : variantNumber? operandVariants (.text "Expr") = some 1 := variantNumber?_text _ _
  simp only [variant, toOperand?, number]

mutual

/-- An operand is read from whatever arrangement of its fields. -/
theorem OperandVaries.toOperand?_eq : ∀ {item other : Item}, OperandVaries item other →
    ∀ levels, toOperand? levels other.normal = toOperand? levels item.normal
  | _, _, .literal _, _ => rfl
  | _, _, @OperandVaries.call function items others fields arguments order, levels => by
    have inner (levels : Nat) : toArguments? levels (.array (normalItems others)) =
        toArguments? levels (.array (normalItems items)) := by
      simp only [toArguments?, arguments.toOperands?_eq]
    have order := order.map fun field => (field.1, field.2.normal)
    simp only [List.map_cons, List.map_nil, Item.normal] at order
    rw [normal_variant, normal_variant, normal_record, normal_record, toOperand?_expr,
      toOperand?_expr]
    congr 1
    funext levels
    rw [record, toCall?, toCallFields?_of_perm order (inner levels)]
    simp only [record, List.map_cons, List.map_nil, toCall?, Item.normal]

theorem OperandsVary.toOperands?_eq : ∀ {items others : List Item}, OperandsVary items others →
    ∀ levels, toOperands? levels (normalItems others) = toOperands? levels (normalItems items)
  | _, _, .nil, _ => rfl
  | _, _, .cons first rest, levels => by
    rw [normalItems, normalItems, toOperands?_cons, toOperands?_cons, first.toOperand?_eq,
      rest.toOperands?_eq]

end

theorem OperandVaries.readsAlike {item other : Item} (varies : OperandVaries item other) :
    ReadsAlike item other := by
  have operand := varies.toOperand?_eq
  cases varies with
  | literal => exact .refl _
  | call =>
    -- as anything else, a map is not read at all
    rw [normal_variant, normal_variant] at operand
    constructor
    all_goals simp only [normal_variant]
    exacts [operand, rfl, rfl, rfl, fun _ => rfl]

theorem FieldVaries.readsAlike {field other : String × Item} (varies : FieldVaries field other) :
    ReadsAlike field.2 other.2 := by
  cases varies with
  | same => exact .refl _
  | operand name varies => exact varies.readsAlike

/-- What is found under the name of a field. -/
inductive Found (opcode : String) (field : String × Item) : Option Item → Prop where
  | kept {other : Item} (alike : ReadsAlike field.2 other) : Found opcode field (some other.normal)
  | left {other : Item} (alike : ReadsAlike field.2 other)
      (omissible : Omissible opcode (field.1, other)) : Found opcode field none

theorem forall₂_found {opcode : String} {fields others kept left : List (String × Item)}
    (varied : List.Forall₂ FieldVaries fields others)
    (each : ∀ other ∈ others, other ∈ kept ∨ other ∈ left)
    (omissible : ∀ field ∈ left, Omissible opcode field) :
    List.Forall₂ (Found opcode) fields (others.map fun other =>
      if other.1 ∈ kept.map Prod.fst then some other.2.normal else none) := by
  induction varied with
  | nil => exact .nil
  | @cons field other fields others varies _ ih =>
    obtain ⟨here, rest⟩ := List.forall_mem_cons.mp each
    refine .cons ?_ (ih rest)
    dsimp only
    by_cases found : other.1 ∈ kept.map Prod.fst
    · rw [if_pos found]
      exact .kept varies.readsAlike
    · rw [if_neg found]
      have omitted := here.resolve_left fun mem => found (List.mem_map_of_mem mem)
      exact .left varies.readsAlike (varies.bounds.1 ▸ omissible other omitted)

theorem map_fst_of_varied {fields others : List (String × Item)}
    (varied : List.Forall₂ FieldVaries fields others) :
    others.map Prod.fst = fields.map Prod.fst := by
  induction varied with
  | nil => rfl
  | cons varies _ ih => rw [List.map_cons, List.map_cons, varies.bounds.1, ih]

/-- Each field is found under its name, unless it has been left out. -/
theorem Arranged.toFields? {opcode : String} {fields kept : List (String × Item)}
    (arranged : Arranged opcode fields kept) (names : List String)
    (same : fields.map Prod.fst = names) (distinct : names.Nodup) (levels : Nat) :
    ∃ found, ProgramFile.toFields? levels names (record kept).normal = some found ∧
      List.Forall₂ (Found opcode) fields found := by
  obtain ⟨others, left, varied, order, omissible⟩ := arranged
  have normalOrder := order.map fun field => (field.1, field.2.normal)
  rw [List.map_append] at normalOrder
  have normalNames : (others.map fun field => (field.1, field.2.normal)).map Prod.fst = names := by
    rw [List.map_map, ← same, ← map_fst_of_varied varied]
    rfl
  have each (other : String × Item) (mem : other ∈ others) : other ∈ kept ∨ other ∈ left :=
    List.mem_append.mp (order.mem_iff.mpr mem)
  refine ⟨_, ?_, forall₂_found varied each omissible⟩
  rw [normal_record, toFields?_of_perm levels normalNames distinct normalOrder, List.map_map,
    List.map_map]
  rfl

section Instructions

variable {opcode : String} {item : Item} {found : Option Item} {kept : List (String × Item)}

theorem Omissible.name {field : String × Item} (omissible : Omissible opcode field) :
    field.1 = "eval" ∨ field.1 = "args" :=
  omissible.imp (congrArg Prod.fst) fun args => congrArg Prod.fst args.2

theorem Omissible.flag (omissible : Omissible opcode ("eval", item)) : item = .bool false := by
  rcases omissible with eval | ⟨-, args⟩
  · exact (Prod.mk.inj eval).2
  · exact absurd (Prod.mk.inj args).1 (by decide)

theorem Omissible.args (omissible : Omissible opcode ("args", item)) : item = .array [] := by
  rcases omissible with eval | ⟨-, args⟩
  · exact absurd (Prod.mk.inj eval).1 (by decide)
  · exact (Prod.mk.inj args).2

/-- A field that is not optional is found. -/
theorem Found.exists_some {name : String} (field : Found opcode (name, item) found)
    (needed : ¬ (name = "eval" ∨ name = "args")) :
    ∃ other : Item, found = some other.normal ∧ ReadsAlike item other := by
  cases field with
  | @kept other alike => exact ⟨other, rfl, alike⟩
  | left _ omissible => exact absurd omissible.name needed

theorem Found.toFlag?_eq (field : Found opcode ("eval", item) found) :
    toFlag? found = toFlag? (some item.normal) := by
  cases field with
  | kept alike => exact alike.flag
  | left alike omissible =>
    cases omissible.flag
    exact alike.flag

theorem Found.toArgs?_eq (field : Found opcode ("args", item) found) (levels : Nat) :
    toArgs? (levels + 1) found = toArgs? (levels + 1) (some item.normal) := by
  cases field with
  | kept alike => exact alike.args _
  | left alike omissible =>
    cases omissible.args
    have none : toArgs? (levels + 1) none = toArgs? (levels + 1) (some (Item.array []).normal) := by
      rw [Item.normal]
      rfl
    exact none.trans (alike.args _)

theorem toFields?_normal (names : List String) {fields : List (String × Item)}
    (same : fields.map Prod.fst = names) (distinct : names.Nodup) (levels : Nat) :
    toFields? levels names (record fields).normal =
      some (fields.map fun field => some field.2.normal) := by
  have normalNames : (fields.map fun field => (field.1, field.2.normal)).map Prod.fst = names := by
    rw [List.map_map, ← same]
    rfl
  rw [normal_record, toFields?_record levels normalNames distinct, List.map_map]
  rfl

theorem toAssignment?_of_arranged {name value embedded : Item}
    (arranged : Arranged opcode [("name", name), ("value", value), ("eval", embedded)] kept)
    (make : String → Operand → Bool → Instruction) (levels : Nat) :
    toAssignment? levels make (record kept).normal =
      toAssignment? levels make
        (record [("name", name), ("value", value), ("eval", embedded)]).normal := by
  obtain ⟨found, fields, each⟩ :=
    arranged.toFields? ["name", "value", "eval"] rfl (by decide) levels
  rcases each with _ | ⟨first, _ | ⟨second, _ | ⟨third, ⟨⟩⟩⟩⟩
  obtain ⟨name', rfl, text⟩ := first.exists_some (by decide)
  obtain ⟨value', rfl, operand⟩ := second.exists_some (by decide)
  rw [toAssignment?, toAssignment?, fields,
    toFields?_normal ["name", "value", "eval"] rfl (by decide)]
  simp only [List.map_cons, List.map_nil, Option.bind_eq_bind, Option.bind_some, text.text,
    operand.operand, third.toFlag?_eq]

theorem toCondGoto?_of_arranged {target condition embedded : Item}
    (arranged : Arranged opcode
      [("target", target), ("condition", condition), ("eval", embedded)] kept) (levels : Nat) :
    toCondGoto? levels (record kept).normal =
      toCondGoto? levels
        (record [("target", target), ("condition", condition), ("eval", embedded)]).normal := by
  obtain ⟨found, fields, each⟩ :=
    arranged.toFields? ["target", "condition", "eval"] rfl (by decide) levels
  rcases each with _ | ⟨first, _ | ⟨second, _ | ⟨third, ⟨⟩⟩⟩⟩
  obtain ⟨target', rfl, number⟩ := first.exists_some (by decide)
  obtain ⟨condition', rfl, operand⟩ := second.exists_some (by decide)
  rw [toCondGoto?, toCondGoto?, fields,
    toFields?_normal ["target", "condition", "eval"] rfl (by decide)]
  simp only [List.map_cons, List.map_nil, Option.bind_eq_bind, Option.bind_some, number.target,
    operand.operand, third.toFlag?_eq]

theorem toJump?_of_arranged {target : Item} (arranged : Arranged opcode [("target", target)] kept)
    (make : UInt64 → Instruction) (levels : Nat) :
    toJump? levels make (record kept).normal =
      toJump? levels make (record [("target", target)]).normal := by
  obtain ⟨found, fields, each⟩ := arranged.toFields? ["target"] rfl (by decide) levels
  rcases each with _ | ⟨first, ⟨⟩⟩
  obtain ⟨target', rfl, number⟩ := first.exists_some (by decide)
  rw [toJump?, toJump?, fields, toFields?_normal ["target"] rfl (by decide)]
  simp only [List.map_cons, List.map_nil, Option.bind_eq_bind, Option.bind_some, number.target]

/-- Without arguments a component is called with none, for which no level is needed. -/
theorem toCallComponent?_of_arranged {name args : Item}
    (arranged : Arranged opcode [("name", name), ("args", args)] kept) (levels : Nat) :
    toCallComponent? (levels + 1) (record kept).normal =
      toCallComponent? (levels + 1) (record [("name", name), ("args", args)]).normal := by
  obtain ⟨found, fields, each⟩ := arranged.toFields? ["name", "args"] rfl (by decide) (levels + 1)
  rcases each with _ | ⟨first, _ | ⟨second, ⟨⟩⟩⟩
  obtain ⟨name', rfl, text⟩ := first.exists_some (by decide)
  rw [toCallComponent?, toCallComponent?, fields, toFields?_normal ["name", "args"] rfl (by decide)]
  simp only [List.map_cons, List.map_nil, Option.bind_eq_bind, Option.bind_some, text.text,
    second.toArgs?_eq]

theorem record_inj {fields others : List (String × Item)} (same : record fields = record others) :
    fields = others := by
  injection same with same
  refine List.map_injective_iff.mpr ?_ same
  rintro ⟨name, item⟩ ⟨other, item'⟩ same
  obtain ⟨names, items⟩ := Prod.mk.inj same
  have names : name = other := MessagePack.utf8_inj (Item.string.inj names)
  rw [names, show item = item' from items]

theorem variant_inj {name other : String} {content item : Item}
    (same : variant name content = variant other item) : name = other ∧ content = item := by
  injection same with same
  obtain ⟨same, -⟩ := List.cons.inj same
  obtain ⟨names, contents⟩ := Prod.mk.inj same
  exact ⟨MessagePack.utf8_inj (Item.string.inj names), contents⟩

theorem arranged_of_varies {fields : List (String × Item)} {other : Item}
    (varies : InstructionVaries (variant opcode (record fields)) other) :
    ∃ kept, Arranged opcode fields kept ∧ other = variant opcode (record kept) := by
  generalize same : variant opcode (record fields) = item at varies
  cases varies with
  | bare => cases same
  | @fields _ _ kept arranged =>
    obtain ⟨rfl, contents⟩ := variant_inj same
    cases record_inj contents
    exact ⟨kept, arranged, rfl⟩

theorem eq_of_bare_varies {other : Item} (varies : InstructionVaries (.text opcode) other) :
    other = .text opcode := by
  generalize same : Item.text opcode = item at varies
  cases varies with
  | bare => rfl
  | fields => cases same

/-- An instruction is read from whatever arrangement of its fields. -/
theorem InstructionVaries.toInstruction?_eq {instruction : Instruction} {item other : Item}
    (varies : InstructionVaries item other) (made : ofInstruction? instruction = some item)
    (levels : Nat) :
    toInstruction? (levels + 2) other.normal = toInstruction? (levels + 2) item.normal := by
  cases instruction with
  | setStatic name operand embedded | setReactive name operand embedded =>
    rw [ofInstruction?] at made
    obtain ⟨content, assigns, rfl⟩ := Option.map_eq_some_iff.mp made
    obtain ⟨value, -, rfl⟩ := Option.map_eq_some_iff.mp assigns
    obtain ⟨kept, arranged, rfl⟩ := arranged_of_varies varies
    rw [normal_variant, normal_variant, toInstruction?_variant, toInstruction?_variant]
    exact toAssignment?_of_arranged arranged _ _
  | goto target | call target =>
    cases made
    obtain ⟨kept, arranged, rfl⟩ := arranged_of_varies varies
    rw [normal_variant, normal_variant, toInstruction?_variant, toInstruction?_variant]
    exact toJump?_of_arranged arranged _ _
  | condGoto target operand embedded =>
    rw [ofInstruction?] at made
    obtain ⟨condition, -, rfl⟩ := Option.map_eq_some_iff.mp made
    obtain ⟨kept, arranged, rfl⟩ := arranged_of_varies varies
    rw [normal_variant, normal_variant, toInstruction?_variant, toInstruction?_variant]
    exact toCondGoto?_of_arranged arranged _
  | ret =>
    cases made
    rw [eq_of_bare_varies varies]
  | callComponent name args =>
    rw [ofInstruction?] at made
    obtain ⟨content, -, rfl⟩ := Option.map_eq_some_iff.mp made
    obtain ⟨kept, arranged, rfl⟩ := arranged_of_varies varies
    rw [normal_variant, normal_variant, toInstruction?_variant, toInstruction?_variant]
    exact toCallComponent?_of_arranged arranged _

end Instructions

theorem mapM_toInstruction?_eq {program : Program} {items others : List Item}
    (made : program.mapM ofInstruction? = some items)
    (varied : List.Forall₂ InstructionVaries items others) (levels : Nat) :
    (normalItems others).mapM (toInstruction? (levels + 2)) =
      (normalItems items).mapM (toInstruction? (levels + 2)) := by
  induction program generalizing items others with
  | nil =>
    cases made
    cases varied
    rfl
  | cons instruction program ih =>
    rw [List.mapM_cons] at made
    obtain ⟨item, first, made⟩ := Option.bind_eq_some_iff.mp made
    obtain ⟨rest, found, made⟩ := Option.bind_eq_some_iff.mp made
    cases made
    cases varied with
    | cons varies varied =>
      rw [normalItems, normalItems, List.mapM_cons, List.mapM_cons,
        varies.toInstruction?_eq first, ih found varied]

theorem Rearranged.toProgram?_eq {program : Program} {item other : Item}
    (rearranged : Rearranged item other) (made : ofProgram? program = some item) :
    toProgram? other.normal = toProgram? item.normal := by
  rw [ofProgram?] at made
  obtain ⟨items, found, rfl⟩ := Option.map_eq_some_iff.mp made
  cases rearranged with
  | program varied =>
    rw [Item.normal, Item.normal, toProgram?, toProgram?]
    exact mapM_toInstruction?_eq found varied _

theorem decode?_of_rearranged {program : Program} {item other : Item} (fits : Fits program)
    (made : ofProgram? program = some item) (rearranged : Rearranged item other) :
    decode? other.write =
      if Program.levels program ≤ maxLevels then some (Program.canonical program) else none := by
  have bounds := rearranged.bounds
  have depth := depth_ofProgram? made
  refine decode?_write (bounds.fits (fits item made)) ?_ ?_
  · intro shallow
    have less := bounds.depth
    rw [maxDepth]
    omega
  · rw [rearranged.toProgram?_eq made]
    exact toProgram?_ofProgram? made

/-- A program without host objects is read from its file whatever the arrangement of the fields of
instructions and calls, and without flags that are not set and arguments of components that get
none, just as it is read from the file that has been written. -/
theorem decode_rearranged {program : Program}
    (stored : ∀ name, ¬ Program.Occurs (.hostObject name) program) :
    ∃ item, ofProgram? program = some item ∧ encode program = .ok item.write ∧
      ∀ other, Rearranged item other → Fits program →
        decode other.write = decode item.write ∧ ReadBack other.write program := by
  obtain ⟨bytes, encoded⟩ := (exists_encode_iff program).mpr stored
  obtain ⟨item, made, rfl⟩ := encode_eq_ok encoded
  refine ⟨item, made, encoded, ?_⟩
  intro other rearranged fits
  have back := decode?_of_rearranged fits made rearranged
  refine ⟨?_, readBack_of_decode? back⟩
  rw [decode, decode, back, decode?_of_encode fits encoded]

/-- A program with an expression, a flag that is not set and a component that gets no arguments. -/
def shuffledProgram : Program :=
  [.setStatic "total" (.call "+" [.literal (.int 1)]) false, .callComponent "say" .empty]

def shuffledItem : Item :=
  .array
    [variant "SET_STATIC_VAR" (record
      [("value", variant "Expr" (record
        [("args", .array [variant "Literal" (variant "Int" (.signed 1))]),
          ("operator", .text "+")])),
        ("name", .text "total")]),
      variant "CALL_COMPONENT" (record [("name", .text "say")])]

theorem decode_rearranged_shuffledProgram :
    ∃ item, ofProgram? shuffledProgram = some item ∧ Rearranged item shuffledItem ∧
      Fits shuffledProgram ∧ Program.Ordered shuffledProgram ∧
      decode shuffledItem.write = .ok shuffledProgram := by
  have stored : ∀ name, ¬ Program.Occurs (.hostObject name) shuffledProgram :=
    (isSome_ofProgram?_iff _).mp rfl
  obtain ⟨item, made, -, reads⟩ := decode_rearranged stored
  have fits : Fits shuffledProgram := by
    intro item made
    cases made
    simp only [variant, record, List.map_cons, List.map_nil, Item.text, List.reverse_cons,
      List.reverse_nil, List.nil_append, List.cons_append, Item.Fits, Item.FitItems,
      Item.FitEntries, length_utf8]
    decide
  have rearranged : Rearranged item shuffledItem := by
    cases made
    refine .program (.cons (.fields ?_) (.cons (.fields ?_) .nil))
    · refine ⟨_, [("eval", .bool false)],
        .cons (.same _) (.cons (.operand _ (.call (.cons (.literal _) .nil) (.swap _ _ _)))
          (.cons (.same _) .nil)), .swap _ _ _, ?_⟩
      intro field mem
      exact .inl (List.mem_singleton.mp mem)
    · refine ⟨_, [("args", .array [])], .cons (.same _) (.cons (.same _) .nil), .refl _, ?_⟩
      intro field mem
      exact .inr ⟨rfl, List.mem_singleton.mp mem⟩
  have one : (Value.int 1).Ordered := by
    intro entries inner
    cases inner
  have ordered : Program.Ordered shuffledProgram := by
    refine ⟨Program.throughout_of_forall ?_, ?_⟩
    · simp only [shuffledProgram, List.forall_mem_cons]
      refine ⟨Instruction.throughout_of_operand ?_ ?_,
        Instruction.throughout_callComponent (List.forall_mem_nil _), List.forall_mem_nil _⟩
      · intro name args same
        cases same
      · intro operand same
        cases same
        apply Operand.throughout_call
        exact List.forall_mem_singleton.mpr (Operand.throughout_literal one)
    · intro name args mem
      rcases List.mem_pair.mp mem with same | same
      · cases same
      · cases same
        exact List.Pairwise.nil
  have shallow : Program.levels shuffledProgram ≤ maxLevels := by decide
  exact ⟨item, made, rearranged, fits, ordered,
    ((reads _ rearranged fits).2.ordered ordered).mpr shallow⟩

/-! ## Programs that are too deep -/

/-- Lists around one another. -/
def nest : Nat → Value
  | 0 => .nil
  | depth + 1 => .list [nest depth]

def nestItem : Nat → Item
  | 0 => .text "Nil"
  | depth + 1 => variant "List" (.array [nestItem depth])

theorem ofValue?_nest (depth : Nat) : ofValue? (nest depth) = some (nestItem depth) := by
  induction depth with
  | zero => rfl
  | succ depth ih => simp [nest, nestItem, ofValue?, ofValues?, ih]

theorem levels_nest (depth : Nat) : (nest depth).levels = depth := by
  induction depth with
  | zero => rfl
  | succ depth ih => simp [nest, Value.levels, Value.levelsItems, ih]

theorem fits_nestItem (depth : Nat) : (nestItem depth).Fits := by
  induction depth with
  | zero =>
    rw [nestItem, Item.text, Item.Fits, length_utf8]
    decide
  | succ depth ih =>
    rw [nestItem, fits_variant_iff, length_utf8, Item.Fits]
    exact ⟨by decide, by simp, ih, trivial⟩

/-- A program with deeper lists than can be read. -/
def deepProgram : Program := [.setStatic "x" (.literal (nest 1200)) false]

def deepItem (fields : List (String × Item)) : Item :=
  .array [variant "SET_STATIC_VAR" (record fields)]

def deepFields : List (String × Item) :=
  [("name", .text "x"), ("value", variant "Literal" (nestItem 1200)), ("eval", .bool false)]

theorem ofProgram?_deepProgram : ofProgram? deepProgram = some (deepItem deepFields) := by
  have operand : ofOperand? (.literal (nest 1200)) = some (variant "Literal" (nestItem 1200)) := by
    rw [ofOperand?, ofValue?_nest, Option.map_some]
  simp only [deepProgram, ofProgram?, List.mapM_cons, ofInstruction?, ofAssignment?, operand]
  rfl

theorem fits_deepProgram : Fits deepProgram := by
  intro item made
  cases ofProgram?_deepProgram.symm.trans made
  rw [deepItem, deepFields, Item.Fits, FitItems, FitItems, fits_variant_iff, fits_record_iff]
  simp only [List.forall_mem_cons, List.not_mem_nil, false_implies, implies_true,
    List.length_cons, List.length_nil, fits_variant_iff, fits_nestItem, Item.text, Item.Fits,
    length_utf8]
  decide

/-- As it is written, a program with too deep lists is not read back, and no more so with its
fields the other way round: reading fails. -/
theorem deepProgram_not_decoded :
    (∀ name, ¬ Program.Occurs (.hostObject name) deepProgram) ∧ Fits deepProgram ∧
      ofProgram? deepProgram = some (deepItem deepFields) ∧
      Rearranged (deepItem deepFields) (deepItem deepFields.reverse) ∧
      ∃ message,
        decode (deepItem deepFields.reverse).write = .error ⟨.serialization message, none⟩ := by
  have stored : ∀ name, ¬ Program.Occurs (.hostObject name) deepProgram :=
    (isSome_ofProgram?_iff _).mp (by rw [ofProgram?_deepProgram]; rfl)
  have rearranged : Rearranged (deepItem deepFields) (deepItem deepFields.reverse) := by
    refine .program (.cons (.fields ?_) .nil)
    refine ⟨deepFields, [], List.forall₂_same.mpr fun field _ => .same field, ?_, ?_⟩
    · rw [List.append_nil]
      exact deepFields.reverse_perm
    · intro field mem
      cases mem
  have deep : maxLevels < Program.levels deepProgram := by
    simp [deepProgram, Program.levels, Instruction.levels, Operand.levels, levels_nest, maxLevels]
  have read := decode?_of_rearranged fits_deepProgram ofProgram?_deepProgram rearranged
  exact ⟨stored, fits_deepProgram, ofProgram?_deepProgram, rearranged,
    (readBack_of_decode? read).refused.mpr deep⟩

end DialogueEngine.ProgramFile
