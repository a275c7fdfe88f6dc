import DialogueEngine.Proofs.Program.Equality
import DialogueEngine.Proofs.ProgramFile.Encoding

/-!
# Equal programs are written alike

Programs compare equal without regard to the order in which arguments have been bound. What is
written of a program, to a file or in a listing, does not tell equal programs apart as long as no
map has two entries to put in an order: wherever arguments are written, they are sorted first.
-/

namespace DialogueEngine

/-! ## No order to choose -/

/-- No map in the value has more than one entry. -/
def Value.Narrow : Value → Prop := Throughout fun entries => entries.length ≤ 1

def Operand.Narrow : Operand → Prop := Throughout fun entries => entries.length ≤ 1

def Instruction.Narrow : Instruction → Prop := Throughout fun entries => entries.length ≤ 1

def Program.Narrow : Program → Prop := Throughout fun entries => entries.length ≤ 1

mutual

theorem Value.Narrow.eq_of_beq : ∀ {value other : Value}, value.Narrow → value.beq other →
    value = other
  | value, other, narrow, same => by
    cases value <;> cases other <;>
      simp only [beq, Bool.false_eq_true, decide_eq_true_eq] at same
    case nil.nil => rfl
    case float.float =>
      rw [float.injEq, Double.mk.injEq]
      exact same
    case list.list => rw [Value.eq_of_beqItems narrow.item same]
    case map.map =>
      rw [Bool.and_eq_true, decide_eq_true_eq] at same
      rw [Value.eq_of_beqEntries narrow.entry (narrow _ .self) same.1 same.2]
    all_goals rw [same]

theorem Value.eq_of_beqItems : ∀ {items others : List Value}, (∀ item ∈ items, item.Narrow) →
    beqItems items others → items = others
  | [], [], _, _ => rfl
  | item :: items, other :: others, narrow, same => by
    rw [beqItems, Bool.and_eq_true] at same
    rw [List.forall_mem_cons] at narrow
    rw [Value.Narrow.eq_of_beq narrow.1 same.1, Value.eq_of_beqItems narrow.2 same.2]

/-- Where there is a single entry on each side, it is the one that is found. -/
theorem Value.eq_of_beqEntries : ∀ {entries others : List (Value × Value)},
    (∀ entry ∈ entries, entry.1.Narrow ∧ entry.2.Narrow) → entries.length ≤ 1 →
      entries.length = others.length → beqEntries entries others → entries = others
  | [], [], _, _, _, _ => rfl
  | [(key, content)], [(key', content')], narrow, _, _, same => by
    have within : key.Narrow ∧ content.Narrow := narrow _ List.mem_cons_self
    rw [beqEntries, beqEntries, Bool.and_true, List.find?_singleton] at same
    by_cases keys : key.beq key'
    · rw [if_pos keys] at same
      rw [Value.Narrow.eq_of_beq within.1 keys, Value.Narrow.eq_of_beq within.2 same]
    · rw [if_neg keys] at same
      cases same

end

mutual

theorem Operand.Narrow.eq_of_beq : ∀ {operand other : Operand}, operand.Narrow →
    operand.beq other → operand = other
  | .literal _, .literal _, narrow, same => by
    rw [Operand.beq] at same
    rw [Value.Narrow.eq_of_beq narrow.literal same]
  | .call _ _, .call _ _, narrow, same => by
    rw [Operand.beq, Bool.and_eq_true, decide_eq_true_eq] at same
    rw [same.1, Operand.eq_of_beqArguments narrow.argument same.2]
  | .literal _, .call _ _, _, same | .call _ _, .literal _, _, same => by
    simp [Operand.beq] at same

theorem Operand.eq_of_beqArguments : ∀ {arguments others : List Operand},
    (∀ argument ∈ arguments, argument.Narrow) → beqArguments arguments others →
      arguments = others
  | [], [], _, _ => rfl
  | argument :: arguments, other :: others, narrow, same => by
    rw [beqArguments, Bool.and_eq_true] at same
    rw [List.forall_mem_cons] at narrow
    rw [Operand.Narrow.eq_of_beq narrow.1 same.1, Operand.eq_of_beqArguments narrow.2 same.2]

end

/-! ## What is written -/

/-- Equal arguments sort to the same list. -/
theorem ComponentArgs.entries_eq_of_beq {args others : ComponentArgs}
    (narrow : ∀ binding ∈ args.bindings, binding.2.Narrow) (same : args.beq others) :
    args.entries = others.entries := by
  have within : ∀ entry ∈ args.entries, entry.2.Narrow :=
    fun entry mem => narrow entry (mem_entries.mp mem)
  have alike := (List.forall₂_and_left _ _).mpr ⟨within, forall₂_entries_of_beq same⟩
  rw [← List.forall₂_eq_eq_eq]
  refine alike.imp ?_
  rintro entry other ⟨entry_narrow, names, values⟩
  exact Prod.ext names (entry_narrow.eq_of_beq values)

/-- The instructions look the same in a file and in a listing. -/
structure Instruction.WrittenAlike (instruction other : Instruction) : Prop where
  item : ProgramFile.ofInstruction? instruction = ProgramFile.ofInstruction? other
  text : instruction.text = other.text

/-- Equal instructions need not be the same: their arguments may have been bound in different
orders. -/
theorem Instruction.Narrow.writtenAlike_of_beq {instruction other : Instruction}
    (narrow : instruction.Narrow) (same : instruction.beq other) :
    instruction.WrittenAlike other := by
  cases instruction <;> cases other <;>
    simp only [beq, Bool.false_eq_true, Bool.and_eq_true, decide_eq_true_eq] at same
  case callComponent.callComponent name args name' args' =>
    obtain ⟨names, values⟩ := same
    have sorted := ComponentArgs.entries_eq_of_beq narrow.argument values
    have texts : argumentTexts args = argumentTexts args' := by
      rw [argumentTexts, argumentTexts]
      exact congrArg _ (congrArg _ sorted)
    constructor
    · rw [ProgramFile.ofInstruction?, ProgramFile.ofInstruction?, ProgramFile.ofArgs?,
        ProgramFile.ofArgs?, names, sorted]
      rfl
    · rw [text, text, names, texts]
      rfl
  case ret.ret => exact ⟨rfl, rfl⟩
  case goto.goto | call.call =>
    rw [same]
    exact ⟨rfl, rfl⟩
  all_goals
    obtain ⟨⟨first, operands⟩, flags⟩ := same
    rw [first, flags, Operand.Narrow.eq_of_beq (narrow.operand rfl) operands]
    exact ⟨rfl, rfl⟩

namespace Program

variable {program other : Program}

theorem Narrow.forall₂_writtenAlike (narrow : program.Narrow) (same : program.beq other) :
    List.Forall₂ Instruction.WrittenAlike program other := by
  have each := (List.forall₂_and_left _ _).mpr ⟨narrow.instruction, beq_iff_forall₂.mp same⟩
  refine each.imp ?_
  rintro instruction counterpart ⟨within, equal⟩
  exact Instruction.Narrow.writtenAlike_of_beq within equal

theorem ofProgram?_eq_of_writtenAlike
    (alike : List.Forall₂ Instruction.WrittenAlike program other) :
    ProgramFile.ofProgram? program = ProgramFile.ofProgram? other := by
  rw [ProgramFile.ofProgram?, ProgramFile.ofProgram?]
  congr 1
  induction alike with
  | nil => rfl
  | cons first _ ih => rw [List.mapM_cons, List.mapM_cons, first.item, ih]

theorem listing_eq_of_writtenAlike (alike : List.Forall₂ Instruction.WrittenAlike program other) :
    program.listing = other.listing := by
  rw [listing, listing]
  congr 1
  -- the numbers of the lines go on from any first one
  generalize 0 = start
  induction alike generalizing start with
  | nil => rfl
  | @cons instruction other rest others first _ ih =>
    have line : listingLine instruction start = listingLine other start := by
      rw [listingLine, listingLine, first.text]
    rw [List.zipIdx_cons, List.zipIdx_cons, List.map_cons, List.map_cons, ih]
    exact congrArg (· :: _) line

/-- Equal programs are written alike, whatever the order in which their arguments were bound and
whatever was bound before: to the same bytes, and in the same listing. -/
theorem written_alike_of_beq (same : program.beq other) (storable : program.Storable)
    (narrow : program.Narrow) :
    (∃ bytes, ProgramFile.encode program = .ok bytes ∧ ProgramFile.encode other = .ok bytes) ∧
      program.listing = other.listing := by
  have alike := narrow.forall₂_writtenAlike same
  obtain ⟨bytes, encoded⟩ := (ProgramFile.exists_encode_iff program).mpr storable
  refine ⟨⟨bytes, encoded, ?_⟩, listing_eq_of_writtenAlike alike⟩
  rwa [ProgramFile.encode, ofProgram?_eq_of_writtenAlike alike] at encoded

/-- The value of `text`, with one entry. -/
def caption : Value := .map [(.string "en", .list [.string "Welcome", .int 1])]

/-- A greeting with its text revised. -/
def greeting : Program :=
  [.callComponent "say"
    (((ComponentArgs.empty.insert "text" .nil).insert "speaker" (.string "Ada")).insert "text"
      caption)]

def greetingDirectly : Program :=
  [.callComponent "say" ((ComponentArgs.empty.insert "text" caption).insert "speaker"
    (.string "Ada"))]

theorem narrow_greeting : greeting.Narrow := by
  have welcome : (Value.list [.string "Welcome", .int 1]).Narrow := by
    refine Value.throughout_list ?_
    simp only [List.forall_mem_cons]
    exact ⟨nofun, nofun, List.forall_mem_nil _⟩
  have caption_narrow : caption.Narrow :=
    Value.throughout_map (Nat.le_refl 1) (List.forall_mem_singleton.mpr ⟨nofun, welcome⟩)
  refine throughout_of_forall (List.forall_mem_singleton.mpr
    (Instruction.throughout_callComponent ?_))
  intro binding mem
  have listed : binding ∈ [("text", caption), ("speaker", .string "Ada")] := mem
  rcases List.mem_pair.mp listed with rfl | rfl
  · exact caption_narrow
  · exact nofun

theorem written_alike_greeting :
    greeting ≠ greetingDirectly ∧ greeting.beq greetingDirectly ∧ greeting.Storable ∧
      greeting.Narrow ∧
      (∃ bytes, ProgramFile.encode greeting = .ok bytes ∧
        ProgramFile.encode greetingDirectly = .ok bytes) ∧
      greeting.listing = greetingDirectly.listing := by
  have storable : greeting.Storable :=
    (ProgramFile.isSome_ofProgram?_iff greeting).mp (by decide +kernel)
  exact ⟨by decide, by decide +kernel, storable, narrow_greeting,
    written_alike_of_beq (by decide +kernel) storable narrow_greeting⟩

end Program

end DialogueEngine
