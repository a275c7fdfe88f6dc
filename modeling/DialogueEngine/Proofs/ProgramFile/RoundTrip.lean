import DialogueEngine.Proofs.Program.Equality
import DialogueEngine.Proofs.ProgramFile.Decoding
import DialogueEngine.Proofs.ProgramFile.Encoding

/-!
# Program files round-trip

What is written to a program file is read back. A program can be written unless a host object
occurs in it, and read unless it has more levels than reading goes down.
-/

namespace DialogueEngine.ProgramFile

open MessagePack (Item utf8)
open MessagePack.Item (read_write read_mono)

/-- No text and no list in the item of the program is too long for MessagePack. -/
def Fits (program : Program) : Prop := ∀ item, ofProgram? program = some item → item.Fits

theorem encode_eq_ok {program : Program} {bytes : Bytes} (encoded : encode program = .ok bytes) :
    ∃ item, ofProgram? program = some item ∧ bytes = item.write := by
  rw [encode] at encoded
  split at encoded
  · next item found =>
    cases encoded
    exact ⟨item, found, rfl⟩
  · cases encoded

/-- What the bytes of an item hold is what the item says, as far as reading goes down. Other bytes
behind them are not looked at. -/
theorem decode?_write_append {item : Item} {program : Program} {shallow : Prop} [Decidable shallow]
    (fits : item.Fits) (depth : shallow → item.depth ≤ maxDepth)
    (back : toProgram? item.normal = if shallow then some program else none) (rest : Bytes) :
    decode? (item.write ++ rest) = if shallow then some program else none := by
  have read := read_write rest fits (Nat.le_max_right maxDepth item.depth)
  by_cases holds : shallow
  · rw [Nat.max_eq_left (depth holds)] at read
    simp only [decode?, read, back]
  · rw [if_neg holds] at back ⊢
    rw [decode?]
    split
    · next other left found =>
      -- with more depth the same item would have been read
      have same := (read_mono (Nat.le_max_left maxDepth item.depth) found).symm.trans read
      cases same
      exact back
    · rfl

theorem decode?_write {item : Item} {program : Program} {shallow : Prop} [Decidable shallow]
    (fits : item.Fits) (depth : shallow → item.depth ≤ maxDepth)
    (back : toProgram? item.normal = if shallow then some program else none) :
    decode? item.write = if shallow then some program else none := by
  have read := decode?_write_append fits depth back []
  rwa [List.append_nil] at read

/-- The bytes of a program hold that program, as far as reading goes down, whatever stands behind
them. -/
theorem decode?_append_of_encode {program : Program} {bytes : Bytes} (fits : Fits program)
    (encoded : encode program = .ok bytes) (rest : Bytes) :
    decode? (bytes ++ rest) =
      if Program.levels program ≤ maxLevels then some (Program.canonical program) else none := by
  obtain ⟨item, found, rfl⟩ := encode_eq_ok encoded
  have depth := depth_ofProgram? found
  refine decode?_write_append (fits item found) ?_ (toProgram?_ofProgram? found) rest
  intro shallow
  rw [maxDepth]
  omega

theorem decode?_of_encode {program : Program} {bytes : Bytes} (fits : Fits program)
    (encoded : encode program = .ok bytes) :
    decode? bytes =
      if Program.levels program ≤ maxLevels then some (Program.canonical program) else none := by
  have read := decode?_append_of_encode fits encoded []
  rwa [List.append_nil] at read

theorem decode_eq_error_iff {bytes : Bytes} :
    (∃ message, decode bytes = .error ⟨.serialization message, none⟩) ↔ decode? bytes = none := by
  rw [decode]
  constructor
  · rintro ⟨message, failed⟩
    split at failed
    · cases failed
    · assumption
  · intro undecoded
    rw [undecoded]
    exact ⟨_, rfl⟩

/-- The program is read back from the bytes unless it has more levels than reading goes down. -/
structure ReadBack (bytes : Bytes) (program : Program) : Prop where
  /-- Maps and arguments are read back in order. -/
  canonical : decode bytes = .ok (Program.canonical program) ↔ Program.levels program ≤ maxLevels
  ordered : Program.Ordered program →
    (decode bytes = .ok program ↔ Program.levels program ≤ maxLevels)
  equal : Program.Keyed program →
    ((∃ other, decode bytes = .ok other ∧ program.beq other) ↔ Program.levels program ≤ maxLevels)
  refused : (∃ message, decode bytes = .error ⟨.serialization message, none⟩) ↔
    maxLevels < Program.levels program

theorem readBack_of_decode? {program : Program} {bytes : Bytes}
    (read : decode? bytes =
      if Program.levels program ≤ maxLevels then some (Program.canonical program) else none) :
    ReadBack bytes program := by
  by_cases shallow : Program.levels program ≤ maxLevels
  · have decoded : decode bytes = .ok (Program.canonical program) := by
      rw [decode, read, if_pos shallow]
    refine ⟨iff_of_true decoded shallow, ?_, ?_, ?_⟩
    · intro ordered
      rw [Program.canonical_of_ordered ordered] at decoded
      exact iff_of_true decoded shallow
    · intro keyed
      exact iff_of_true ⟨_, decoded, keyed.beq_canonical⟩ shallow
    · rw [decode_eq_error_iff, read, if_pos shallow]
      exact iff_of_false nofun (Nat.not_lt.mpr shallow)
  · have undecoded : decode? bytes = none := by rw [read, if_neg shallow]
    have failed (other : Program) : decode bytes ≠ .ok other := by
      rw [decode, undecoded]
      exact nofun
    refine ⟨iff_of_false (failed _) shallow, fun _ => iff_of_false (failed _) shallow, ?_, ?_⟩
    · intro _
      refine iff_of_false ?_ shallow
      rintro ⟨other, decoded, -⟩
      exact failed other decoded
    · rw [decode_eq_error_iff]
      exact iff_of_true undecoded (Nat.not_le.mp shallow)

/-- Program files round-trip. A map may list its entries in any order, and so may a component its
arguments. They are read back in the order of their keys and names, in which the program is equal to
the one that was written. -/
theorem decode_encode (program : Program) :
    ((∃ bytes, encode program = .ok bytes) ↔
      ∀ name, ¬ Program.Occurs (.hostObject name) program) ∧
    ∀ bytes, encode program = .ok bytes → Fits program → ReadBack bytes program := by
  refine ⟨exists_encode_iff program, ?_⟩
  intro bytes encoded fits
  exact readBack_of_decode? (decode?_of_encode fits encoded)

theorem length_utf8 (s : String) : (utf8 s).length = s.utf8ByteSize := by
  rw [utf8, ByteArray.toList, MessagePack.toList_loop]
  simp

/-- A program with a map in an expression, with arguments and with the greatest target. -/
def storedProgram : Program :=
  [.setStatic "total" (.call "+" [.literal (.map [(.nil, .float .nan)])]) false,
    .callComponent "say" (ComponentArgs.empty.insert "text" (.string "Hello.")),
    .goto 0xFFFFFFFFFFFFFFFF]

theorem keyed_storedProgram : Program.Keyed storedProgram := by
  refine Program.throughout_of_forall ?_
  have total : (Value.map [(.nil, .float .nan)]).Keyed := by
    apply Value.throughout_map (List.pairwise_singleton _ _)
    exact List.forall_mem_singleton.mpr ⟨nofun, nofun⟩
  simp only [storedProgram, List.forall_mem_cons]
  refine ⟨Instruction.throughout_of_operand nofun ?_, Instruction.throughout_callComponent ?_,
    Instruction.throughout_of_operand nofun nofun, List.forall_mem_nil _⟩
  · rintro _ ⟨⟩
    exact Operand.throughout_call (List.forall_mem_singleton.mpr (Operand.throughout_literal total))
  · exact List.forall_mem_singleton.mpr nofun

theorem decode_encode_storedProgram :
    ∃ bytes, encode storedProgram = .ok bytes ∧ Fits storedProgram ∧
      Program.Keyed storedProgram ∧
      ∃ other, decode bytes = .ok other ∧ storedProgram.beq other := by
  have encoded : encode storedProgram = .ok _ := rfl
  have fits : Fits storedProgram := by
    intro item made
    cases made
    simp only [variant, record, ofTarget, pairItem, List.map_cons, List.map_nil, Item.text,
      List.reverse_cons, List.reverse_nil, List.nil_append, List.cons_append, Item.Fits,
      Item.FitItems, Item.FitEntries, length_utf8]
    decide
  have shallow : Program.levels storedProgram ≤ maxLevels := by decide
  exact ⟨_, encoded, fits, keyed_storedProgram,
    (((decode_encode storedProgram).2 _ encoded fits).equal keyed_storedProgram).mpr shallow⟩

end DialogueEngine.ProgramFile
