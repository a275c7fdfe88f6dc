import DialogueEngine.Proofs.MessagePack.RoundTrip
import DialogueEngine.Proofs.ProgramFile.Levels
import DialogueEngine.Proofs.Value.Canonical
import Mathlib.Data.List.Nodup

/-!
# Reading programs back

The item of a program is read back as that program, in canonical form, if and only if reading may
go down as many levels as the program has.
-/

namespace DialogueEngine.ProgramFile

open MessagePack (Item ofUtf8? utf8_inj ofUtf8?_utf8)
open MessagePack.Item (normal normalItems normalEntries)

/-- What is read, if reading may go down so many levels, and not otherwise. -/
def Reads {α : Type} (read : Nat → Option α) (levels : Nat) (a : α) : Prop :=
  ∀ allowed, read allowed = if levels ≤ allowed then some a else none

namespace Reads

variable {α β γ : Type} {read : Nat → Option α} {levels : Nat} {a : α}

theorem here (a : α) : Reads (fun _ => some a) 0 a := fun allowed => by
  rw [if_pos (Nat.zero_le allowed)]

theorem map (f : α → β) (reads : Reads read levels a) :
    Reads (fun allowed => (read allowed).map f) levels (f a) := by
  intro allowed
  simp only [reads allowed]
  split <;> rfl

theorem descend (reads : Reads read levels a) :
    Reads (fun allowed => ProgramFile.descend allowed read) (levels + 1) a := by
  intro allowed
  cases allowed with
  | zero => rfl
  | succ allowed => simp only [descend_succ, reads allowed, Nat.add_le_add_iff_right]

/-- Two parts need the levels of that which has more. -/
theorem both {other : Nat → Option β} {more : Nat} {b : β} (f : α → β → γ)
    (reads : Reads read levels a) (readsOther : Reads other more b) :
    Reads (fun allowed => (read allowed).bind fun a => (other allowed).map (f a))
      (max levels more) (f a b) := by
  intro allowed
  simp only [reads allowed, readsOther allowed, Nat.max_le]
  by_cases first : levels ≤ allowed
  · by_cases second : more ≤ allowed <;> simp [first, second]
  · simp [first]

theorem congr {other : Nat → Option α} (reads : Reads read levels a)
    (same : ∀ allowed, other allowed = read allowed) : Reads other levels a :=
  fun allowed => (same allowed).trans (reads allowed)

end Reads

/-! ## Names -/

theorem identify_text (names : List String) (name : String) :
    identify names (.text name) = some (names.findIdx? (· = name)) := by
  have same : (fun other => decide (MessagePack.utf8 other = MessagePack.utf8 name)) =
      fun other => decide (other = name) := by
    funext other
    rw [decide_eq_decide]
    exact ⟨utf8_inj, congrArg _⟩
  rw [Item.text, identify, same]

theorem variantNumber?_text (names : List String) (name : String) :
    variantNumber? names (.text name) = names.findIdx? (· = name) := by
  rw [variantNumber?, identify_text, Option.join_some]

theorem toString?_text (s : String) : toString? (.text s) = some s := by
  rw [Item.text, toString?, ofUtf8?_utf8]

@[simp]
theorem normal_text (s : String) : (Item.text s).normal = .text s := by
  rw [Item.text, normal]

@[simp]
theorem normal_variant (name : String) (content : Item) :
    (variant name content).normal = variant name content.normal := by
  simp only [variant, normal, normalEntries, normal_text]

@[simp]
theorem normal_pairItem (key value : Item) :
    (pairItem key value).normal = pairItem key.normal value.normal := by
  simp only [pairItem, normal, normalItems]

/-! ## Values -/

theorem toInt?_signed (i : Int64) : toInt? (normal (.signed i)) = some i := by
  rw [normal]
  by_cases positive : 0 ≤ i
  · have small : i.toUInt64.toNat < 0x8000000000000000 := by
      rw [Int64.toNat_toUInt64_of_le positive]
      exact Int64.toNatClampNeg_lt i
    rw [if_pos positive, toInt?, if_pos small, Int64.toNat_toUInt64_of_le positive,
      Int64.ofNat_toNatClampNeg i positive]
  · rw [if_neg positive, toInt?]

theorem toValue?_nil (levels : Nat) : toValue? levels (.text "Nil") = some .nil := by
  have number : variantNumber? valueVariants (.text "Nil") = some 0 := variantNumber?_text _ _
  rw [Item.text] at number ⊢
  rw [toValue?_name, if_pos number]

theorem toValue?_bool (levels : Nat) (b : Bool) :
    toValue? levels (variant "Bool" (normal (.bool b))) = some (.bool b) := by
  have number : variantNumber? valueVariants (.text "Bool") = some 1 := variantNumber?_text _ _
  simp only [variant, toValue?, number, normal, toBool?, Option.map_some]

theorem toValue?_int (levels : Nat) (i : Int64) :
    toValue? levels (variant "Int" (normal (.signed i))) = some (.int i) := by
  have number : variantNumber? valueVariants (.text "Int") = some 2 := variantNumber?_text _ _
  simp only [variant, toValue?, number, toInt?_signed, Option.map_some]

theorem toValue?_float (levels : Nat) (x : Double) :
    toValue? levels (variant "Float" (normal (.float x))) = some (.float x) := by
  have number : variantNumber? valueVariants (.text "Float") = some 3 := variantNumber?_text _ _
  simp only [variant, toValue?, number, normal, toDouble?, Option.map_some]

theorem toValue?_string (levels : Nat) (s : String) :
    toValue? levels (variant "String" (.text s)) = some (.string s) := by
  have number : variantNumber? valueVariants (.text "String") = some 4 := variantNumber?_text _ _
  simp only [variant, toValue?, number, toString?_text, Option.map_some]

theorem toValue?_list (levels : Nat) (items : List Item) :
    toValue? levels (variant "List" (.array items)) =
      (descend levels fun levels => toValues? levels items).map .list := by
  have number : variantNumber? valueVariants (.text "List") = some 5 := variantNumber?_text _ _
  simp only [variant, toValue?, number]

theorem toValue?_map (levels : Nat) (items : List Item) :
    toValue? levels (variant "Map" (.array items)) =
      (descend levels fun levels => toPairs? levels items).map fun pairs =>
        .map (Entries.ofPairs pairs) := by
  have number : variantNumber? valueVariants (.text "Map") = some 6 := variantNumber?_text _ _
  simp only [variant, toValue?, number]

theorem toValues?_cons (levels : Nat) (item : Item) (rest : List Item) :
    toValues? levels (item :: rest) =
      (toValue? levels item).bind fun value => (toValues? levels rest).map (value :: ·) := by
  rw [toValues?]
  cases toValue? levels item <;> cases toValues? levels rest <;> rfl

/-- A pair is read one level further down. -/
theorem toPairs?_cons (levels : Nat) (key value : Item) (rest : List Item) :
    toPairs? levels (pairItem key value :: rest) =
      (descend levels fun levels =>
        (toValue? levels key).bind fun key => (toValue? levels value).map (Prod.mk key)).bind
      fun pair => (toPairs? levels rest).map (pair :: ·) := by
  rw [pairItem, toPairs?]
  cases levels with
  | zero => rfl
  | succ levels =>
    rw [descend_succ, descend_succ]
    cases toValue? levels key <;> cases toValue? levels value <;>
      cases toPairs? (levels + 1) rest <;> rfl

mutual

theorem reads_ofValue? : ∀ {value : Value} {item : Item}, ofValue? value = some item →
    Reads (fun allowed => toValue? allowed item.normal) value.levels value.canonical
  | .nil, item, h => by
    rw [ofValue?] at h
    cases h
    rw [normal_text]
    exact (Reads.here _).congr fun allowed => toValue?_nil allowed
  | .bool b, item, h => by
    rw [ofValue?] at h
    cases h
    rw [normal_variant]
    exact (Reads.here _).congr fun allowed => toValue?_bool allowed b
  | .int i, item, h => by
    rw [ofValue?] at h
    cases h
    rw [normal_variant]
    exact (Reads.here _).congr fun allowed => toValue?_int allowed i
  | .float x, item, h => by
    rw [ofValue?] at h
    cases h
    rw [normal_variant]
    exact (Reads.here _).congr fun allowed => toValue?_float allowed x
  | .string s, item, h => by
    rw [ofValue?] at h
    cases h
    rw [normal_variant, normal_text]
    exact (Reads.here _).congr fun allowed => toValue?_string allowed s
  | .list items, item, h => by
    rw [ofValue?] at h
    obtain ⟨contents, found, rfl⟩ := Option.map_eq_some_iff.mp h
    rw [normal_variant, normal]
    exact ((reads_ofValues? found).descend.map Value.list).congr fun allowed =>
      toValue?_list allowed _
  | .map entries, item, h => by
    rw [ofValue?] at h
    obtain ⟨contents, found, rfl⟩ := Option.map_eq_some_iff.mp h
    rw [normal_variant, normal]
    exact ((reads_ofEntries? found).descend.map (Value.map ∘ Entries.ofPairs)).congr
      fun allowed => toValue?_map allowed _
  | .hostObject name, item, h => by
    rw [ofValue?] at h
    cases h

theorem reads_ofValues? : ∀ {values : List Value} {items : List Item},
    ofValues? values = some items →
      Reads (fun allowed => toValues? allowed (normalItems items)) (Value.levelsItems values)
        (Value.canonicalItems values)
  | [], items, h => by
    cases h
    exact Reads.here []
  | value :: rest, items, h => by
    rw [ofValues?] at h
    split at h
    · next item others first found =>
      cases h
      exact (Reads.both (· :: ·) (reads_ofValue? first) (reads_ofValues? found)).congr
        fun allowed => by rw [normalItems, toValues?_cons]
    · cases h

theorem reads_ofEntries? : ∀ {entries : List (Value × Value)} {items : List Item},
    ofEntries? entries = some items →
      Reads (fun allowed => toPairs? allowed (normalItems items)) (Value.levelsEntries entries)
        (Value.canonicalEntries entries)
  | [], items, h => by
    cases h
    exact Reads.here []
  | (key, value) :: rest, items, h => by
    rw [ofEntries?] at h
    split at h
    · next key' value' others first second found =>
      cases h
      have pair := (Reads.both Prod.mk (reads_ofValue? first) (reads_ofValue? second)).descend
      exact (Reads.both (· :: ·) pair (reads_ofEntries? found)).congr fun allowed => by
        rw [normalItems, normal_pairItem, toPairs?_cons]
    · cases h

end

/-! ## Operands -/

@[simp]
theorem normal_record (fields : List (String × Item)) :
    (record fields).normal = record (fields.map fun field => (field.1, field.2.normal)) := by
  rw [record, normal, record, List.map_map]
  congr 1
  induction fields with
  | nil => rfl
  | cons field rest ih =>
    rw [List.map_cons, List.map_cons, normalEntries, ih, normal_text]
    rfl

theorem toOperand?_literal (levels : Nat) (content : Item) :
    toOperand? levels (variant "Literal" content) = (toValue? levels content).map .literal := by
  have number : variantNumber? operandVariants (.text "Literal") = some 0 :=
    variantNumber?_text _ _
  simp only [variant, toOperand?, number]

theorem toCallFields?_record (levels : Nat) (function : String) (arguments : Item) :
    toCallFields? levels [(.text "operator", .text function), (.text "args", arguments)] =
      (toArguments? levels arguments).map fun arguments => ⟨some function, some arguments⟩ := by
  have operator : identify callFieldNames (.text "operator") = some (some 0) := identify_text _ _
  have args : identify callFieldNames (.text "args") = some (some 1) := identify_text _ _
  simp only [toCallFields?, operator, args, toString?_text]
  cases toArguments? levels arguments <;> rfl

theorem toOperand?_call (levels : Nat) (function : String) (items : List Item) :
    toOperand? levels
        (variant "Expr" (record [("operator", .text function), ("args", .array items)])) =
      descend levels fun levels =>
        (descend levels fun levels => toOperands? levels items).map (.call function) := by
  have number : variantNumber? operandVariants (.text "Expr") = some 1 := variantNumber?_text _ _
  simp only [variant, record, List.map_cons, List.map_nil, toOperand?, number, toCall?,
    toCallFields?_record, toArguments?]
  congr
  funext levels
  cases descend levels fun levels => toOperands? levels items <;> rfl

theorem toOperands?_cons (levels : Nat) (item : Item) (rest : List Item) :
    toOperands? levels (item :: rest) =
      (toOperand? levels item).bind fun operand =>
        (toOperands? levels rest).map (operand :: ·) := by
  rw [toOperands?]
  cases toOperand? levels item <;> cases toOperands? levels rest <;> rfl

mutual

theorem reads_ofOperand? : ∀ {operand : Operand} {item : Item}, ofOperand? operand = some item →
    Reads (fun allowed => toOperand? allowed item.normal) operand.levels operand.canonical
  | .literal value, item, h => by
    rw [ofOperand?] at h
    obtain ⟨content, found, rfl⟩ := Option.map_eq_some_iff.mp h
    rw [normal_variant]
    exact ((reads_ofValue? found).map Operand.literal).congr fun allowed =>
      toOperand?_literal allowed _
  | .call function arguments, item, h => by
    rw [ofOperand?] at h
    obtain ⟨contents, found, rfl⟩ := Option.map_eq_some_iff.mp h
    rw [normal_variant, normal_record, List.map_cons, List.map_cons, List.map_nil, normal_text,
      normal]
    exact ((reads_ofOperands? found).descend.map (Operand.call function)).descend.congr
      fun allowed => toOperand?_call allowed function _

theorem reads_ofOperands? : ∀ {operands : List Operand} {items : List Item},
    ofOperands? operands = some items →
      Reads (fun allowed => toOperands? allowed (normalItems items))
        (Operand.levelsList operands) (Operand.canonicalList operands)
  | [], items, h => by
    cases h
    exact Reads.here []
  | operand :: rest, items, h => by
    rw [ofOperands?] at h
    split at h
    · next item others first found =>
      cases h
      exact (Reads.both (· :: ·) (reads_ofOperand? first) (reads_ofOperands? found)).congr
        fun allowed => by rw [normalItems, toOperands?_cons]
    · cases h

end

/-! ## Fields -/

theorem addField_next (levels : Nat) {before after : List String} {name : String} {item : Item}
    {found later : List (Option Item)} (fresh : name ∉ before)
    (count : found.length = before.length) :
    addField levels (before ++ name :: after) (.text name) item (found ++ none :: later) =
      some (found ++ some item :: later) := by
  have number : identify (before ++ name :: after) (.text name) = some (some before.length) := by
    have passed : before.findIdx? (· = name) = none := by
      rw [List.findIdx?_eq_none_iff]
      intro other mem
      exact decide_eq_false fun same => fresh (same ▸ mem)
    rw [identify_text, List.findIdx?_append, passed]
    simp [List.findIdx?_cons]
  rw [addField, number, ← count]
  simp

/-- Fields in any order are found in that of their names, apart from those that are left out. -/
theorem toFields?_of_perm (levels : Nat) {names : List String}
    {fields kept left : List (String × Item)} (same : fields.map Prod.fst = names)
    (distinct : names.Nodup) (order : (kept ++ left).Perm fields) :
    toFields? levels names (record kept) =
      some (fields.map fun field =>
        if field.1 ∈ kept.map Prod.fst then some field.2 else none) := by
  subst same
  rw [record, toFields?]
  induction kept generalizing left with
  | nil =>
    rw [List.map_nil, List.foldr_nil, inOrder, List.map_nil, List.nil_append, List.map_const',
      List.take_replicate, Nat.min_self, List.length_map]
    simp [List.map_const']
  | cons field kept ih =>
    have moved : (kept ++ field :: left).Perm fields := List.perm_middle.trans order
    have unread : field.1 ∉ kept.map Prod.fst := by
      have distinct := (order.map Prod.fst).nodup_iff.mpr distinct
      rw [List.cons_append, List.map_cons, List.nodup_cons, List.map_append] at distinct
      exact fun mem => distinct.1 (List.mem_append_left _ mem)
    obtain ⟨before, after, rfl⟩ := List.append_of_mem (order.subset List.mem_cons_self)
    rw [List.map_append, List.map_cons, List.nodup_middle, List.nodup_cons] at distinct
    have others (part : List (String × Item)) (apart : field.1 ∉ part.map Prod.fst) :
        (part.map fun other => if other.1 ∈ kept.map Prod.fst then some other.2 else none) =
          part.map fun other =>
            if other.1 ∈ field.1 :: kept.map Prod.fst then some other.2 else none := by
      refine List.map_congr_left fun other mem => ?_
      have differs : other.1 ≠ field.1 := fun same => apart (same ▸ List.mem_map_of_mem mem)
      simp only [List.mem_cons, differs, false_or]
    rw [List.mem_append, not_or] at distinct
    obtain ⟨⟨fresh, unseen⟩, -⟩ := distinct
    rw [List.map_cons, List.foldr_cons, ih moved, Option.bind_some]
    simp only [List.map_append, List.map_cons, if_neg unread, if_pos List.mem_cons_self]
    rw [addField_next levels fresh (by simp), others before fresh, others after unseen]

/-- The fields of a record are found in their order. -/
theorem toFields?_record (levels : Nat) {names : List String} {fields : List (String × Item)}
    (same : fields.map Prod.fst = names) (distinct : names.Nodup) :
    toFields? levels names (record fields) = some (fields.map fun field => some field.2) := by
  have order : (fields ++ []).Perm fields := by rw [List.append_nil]
  rw [toFields?_of_perm levels same distinct order]
  congr 1
  refine List.map_congr_left fun field mem => ?_
  rw [if_pos (List.mem_map_of_mem mem)]

/-! ## Instructions -/

/-- What is read from each of some items, is read from all of them. -/
theorem reads_mapM {α β : Type} {f : α → Option Item} {read : Nat → Item → Option β}
    {bound : α → Nat} {result : α → β}
    (each : ∀ a item, f a = some item →
      Reads (fun allowed => read allowed item.normal) (bound a) (result a))
    {as : List α} {items : List Item} (h : as.mapM f = some items) :
    Reads (fun allowed => (normalItems items).mapM (read allowed)) (greatest (as.map bound))
      (as.map result) := by
  induction as generalizing items with
  | nil =>
    cases h
    exact Reads.here []
  | cons a rest ih =>
    rw [List.mapM_cons] at h
    obtain ⟨item, first, h⟩ := Option.bind_eq_some_iff.mp h
    obtain ⟨others, found, h⟩ := Option.bind_eq_some_iff.mp h
    cases h
    exact (Reads.both List.cons (each a item first) (ih found)).congr fun allowed => by
      rw [normalItems, List.mapM_cons]
      cases read allowed item.normal with
      | none => rfl
      | some b => cases (normalItems others).mapM (read allowed) <;> rfl

theorem toArgument?_pair (levels : Nat) (name : String) (item : Item) :
    toArgument? levels (pairItem (.text name) item) =
      descend levels fun levels => (toValue? levels item).map (Prod.mk name) := by
  rw [pairItem, toArgument?]
  congr
  funext levels
  rw [toString?_text]
  cases toValue? levels item <;> rfl

theorem reads_ofArgs? {args : ComponentArgs} {item : Item} (h : ofArgs? args = some item) :
    Reads (fun allowed => toArgs? allowed (some item.normal)) (ComponentArgs.levels args)
      args.canonical := by
  rw [ofArgs?] at h
  obtain ⟨items, found, rfl⟩ := Option.map_eq_some_iff.mp h
  have entries : Reads (fun allowed => (normalItems items).mapM (toArgument? allowed))
      (greatest (args.entries.map fun entry => entry.2.levels + 1))
      (args.entries.map fun entry => (entry.1, entry.2.canonical)) := by
    refine reads_mapM ?_ found
    intro entry item made
    obtain ⟨content, stored, rfl⟩ := Option.map_eq_some_iff.mp made
    rw [normal_pairItem, normal_text]
    exact ((reads_ofValue? stored).map (Prod.mk entry.1)).descend.congr fun allowed =>
      toArgument?_pair allowed entry.1 content.normal
  have table := (entries.map ComponentArgs.ofList).descend
  have same : NameTable.ofList (args.entries.map fun entry => (entry.1, entry.2.canonical)) =
      args.table.map Value.canonical := NameTable.ofList_entries (args.table.map Value.canonical)
  rw [ComponentArgs.ofList, same] at table
  rw [normal]
  exact table.congr fun allowed => by rw [toArgs?]

theorem toAssignment?_record (levels : Nat) (make : String → Operand → Bool → Instruction)
    (name : String) (value : Item) (embedded : Bool) :
    toAssignment? levels make
        (record [("name", .text name), ("value", value), ("eval", .bool embedded)]) =
      (toOperand? levels value).map fun operand => make name operand embedded := by
  have fields : toFields? levels ["name", "value", "eval"]
      (record [("name", .text name), ("value", value), ("eval", .bool embedded)]) =
        some [some (.text name), some value, some (.bool embedded)] :=
    toFields?_record levels rfl (by decide)
  rw [toAssignment?, fields]
  cases operand : toOperand? levels value <;> simp [toString?_text, operand, toFlag?, toBool?]

theorem toJump?_record (levels : Nat) (make : UInt64 → Instruction) (target : UInt64) :
    toJump? levels make (record [("target", ofTarget target)]) = some (make target) := by
  have fields : toFields? levels ["target"] (record [("target", ofTarget target)]) =
      some [some (ofTarget target)] := toFields?_record levels rfl (by decide)
  rw [toJump?, fields]
  rfl

theorem toCondGoto?_record (levels : Nat) (target : UInt64) (condition : Item) (embedded : Bool) :
    toCondGoto? levels (record
        [("target", ofTarget target), ("condition", condition), ("eval", .bool embedded)]) =
      (toOperand? levels condition).map fun operand => .condGoto target operand embedded := by
  have fields : toFields? levels ["target", "condition", "eval"] (record
      [("target", ofTarget target), ("condition", condition), ("eval", .bool embedded)]) =
        some [some (ofTarget target), some condition, some (.bool embedded)] :=
    toFields?_record levels rfl (by decide)
  rw [toCondGoto?, fields]
  cases operand : toOperand? levels condition <;>
    simp [ofTarget, toTarget?, operand, toFlag?, toBool?]

theorem toCallComponent?_record (levels : Nat) (name : String) (args : Item) :
    toCallComponent? levels (record [("name", .text name), ("args", args)]) =
      (toArgs? levels (some args)).map (.callComponent name) := by
  have fields : toFields? levels ["name", "args"] (record [("name", .text name), ("args", args)]) =
      some [some (.text name), some args] := toFields?_record levels rfl (by decide)
  rw [toCallComponent?, fields]
  cases found : toArgs? levels (some args) <;> simp [toString?_text, found]

theorem toInstruction?_variant (levels : Nat) (name : String) (content : Item) :
    toInstruction? levels (variant name content) =
      descend levels fun levels =>
        match opcodes.findIdx? (· = name) with
        | some 0 => toAssignment? levels .setStatic content
        | some 1 => toAssignment? levels .setReactive content
        | some 2 => toJump? levels .goto content
        | some 3 => toCondGoto? levels content
        | some 4 => toJump? levels .call content
        | some 5 => (toUnit? content).map fun _ => .ret
        | some 6 => toCallComponent? levels content
        | _ => none := by
  rw [← variantNumber?_text]
  rfl

theorem toInstruction?_ret (levels : Nat) :
    toInstruction? levels (.text "RETURN") = some .ret := by
  have number : variantNumber? opcodes (.text "RETURN") = some 5 := variantNumber?_text _ _
  rw [Item.text] at number ⊢
  simp [toInstruction?, number]

theorem reads_ofAssignment? (make : String → Operand → Bool → Instruction) {name : String}
    {operand : Operand} {embedded : Bool} {content : Item}
    (h : ofAssignment? name operand embedded = some content) :
    Reads (fun allowed => toAssignment? allowed make content.normal) operand.levels
      (make name operand.canonical embedded) := by
  rw [ofAssignment?] at h
  obtain ⟨value, found, rfl⟩ := Option.map_eq_some_iff.mp h
  simp only [normal_record, List.map_cons, List.map_nil, normal_text, normal]
  refine ((reads_ofOperand? found).map (make name · embedded)).congr fun allowed => ?_
  exact toAssignment?_record allowed make name value.normal embedded

/-- An instruction is read back. -/
theorem reads_ofInstruction? {instruction : Instruction} {item : Item}
    (h : ofInstruction? instruction = some item) :
    Reads (fun allowed => toInstruction? allowed item.normal) instruction.levels
      instruction.canonical := by
  cases instruction with
  | setStatic name operand embedded | setReactive name operand embedded =>
    rw [ofInstruction?] at h
    obtain ⟨content, made, rfl⟩ := Option.map_eq_some_iff.mp h
    rw [normal_variant]
    refine (reads_ofAssignment? _ made).descend.congr fun allowed => ?_
    rw [toInstruction?_variant]
    rfl
  | goto target | call target =>
    cases h
    simp only [normal_variant, normal_record, List.map_cons, List.map_nil, ofTarget, normal]
    refine (Reads.here _).descend.congr fun allowed => ?_
    rw [toInstruction?_variant]
    exact congrArg (descend allowed) (funext fun levels => toJump?_record levels _ target)
  | condGoto target operand embedded =>
    rw [ofInstruction?] at h
    obtain ⟨condition, found, rfl⟩ := Option.map_eq_some_iff.mp h
    have inner := (reads_ofOperand? found).map (Instruction.condGoto target · embedded)
    simp only [normal_variant, normal_record, List.map_cons, List.map_nil, ofTarget, normal]
    refine inner.descend.congr fun allowed => ?_
    rw [toInstruction?_variant]
    exact congrArg (descend allowed) (funext fun levels => toCondGoto?_record levels _ _ _)
  | ret =>
    cases h
    rw [normal_text]
    exact (Reads.here _).congr toInstruction?_ret
  | callComponent name args =>
    rw [ofInstruction?] at h
    obtain ⟨content, found, rfl⟩ := Option.map_eq_some_iff.mp h
    have inner := (reads_ofArgs? found).map (Instruction.callComponent name)
    simp only [normal_variant, normal_record, List.map_cons, List.map_nil, normal_text]
    refine inner.descend.congr fun allowed => ?_
    rw [toInstruction?_variant]
    exact congrArg (descend allowed) (funext fun levels => toCallComponent?_record levels _ _)

/-- A program is read back from its item, if it does not have too many levels. -/
theorem toProgram?_ofProgram? {program : Program} {item : Item}
    (h : ofProgram? program = some item) :
    toProgram? item.normal =
      if Program.levels program ≤ maxLevels then some (Program.canonical program) else none := by
  rw [ofProgram?] at h
  obtain ⟨items, found, rfl⟩ := Option.map_eq_some_iff.mp h
  have inner : Reads (fun allowed => (normalItems items).mapM (toInstruction? allowed))
      (greatest (program.map Instruction.levels)) (program.map Instruction.canonical) :=
    reads_mapM (fun _ _ => reads_ofInstruction?) found
  rw [normal, toProgram?]
  exact inner.descend maxLevels

end DialogueEngine.ProgramFile
