import DialogueEngine.Proofs.MessagePack.Truncation
import DialogueEngine.Proofs.ProgramFile.RoundTrip

/-!
# Truncated program files

A program file that breaks off before its end holds no program, wherever that may be: the length in
front of each list says how much is still to come.
-/

namespace DialogueEngine.ProgramFile

open MessagePack (Item)
open MessagePack.Item (read_write read_of_truncated)

theorem write_ne_nil {item : Item} (fits : item.Fits) : item.write ≠ [] := by
  intro empty
  have read := read_write [] fits (Nat.le_refl _)
  rw [empty] at read
  cases depth : item.depth <;> simp [depth, Item.read, MessagePack.Header.read] at read

theorem decode_eq_error {bytes : Bytes} (unread : Item.read maxDepth bytes = none) :
    ∃ message, decode bytes = .error ⟨.serialization message, none⟩ := by
  rw [decode, decode?, unread]
  exact ⟨_, rfl⟩

/-- A program without host objects is written to some bytes, and no proper part of their front is
read as a program, be it the same one or a shorter one. -/
theorem decode_of_truncated {program : Program}
    (stored : ∀ name, ¬ Program.Occurs (.hostObject name) program) (fits : Fits program) :
    ∃ bytes, encode program = .ok bytes ∧ bytes ≠ [] ∧
      ∀ cut, cut <+: bytes → cut ≠ bytes →
        ∃ message, decode cut = .error ⟨.serialization message, none⟩ := by
  obtain ⟨bytes, encoded⟩ := (exists_encode_iff program).mpr stored
  obtain ⟨item, made, rfl⟩ := encode_eq_ok encoded
  have fits := fits item made
  refine ⟨item.write, encoded, write_ne_nil fits, ?_⟩
  intro cut front short
  exact decode_eq_error (read_of_truncated fits front short maxDepth)

/-- A program of two instructions, the first of which makes a program on its own. -/
def brokenProgram : Program := [.goto 1, .ret]

/-- The file breaks off between its instructions. -/
theorem decode_of_truncated_brokenProgram :
    ∃ first second, ofInstruction? (.goto 1) = some first ∧ ofInstruction? .ret = some second ∧
      Fits brokenProgram ∧ (∀ name, ¬ Program.Occurs (.hostObject name) brokenProgram) ∧
      encode brokenProgram = .ok (0x92 :: (first.write ++ second.write)) ∧
      encode [.goto 1] = .ok (0x91 :: first.write) ∧
      ∃ message, decode (0x92 :: first.write) = .error ⟨.serialization message, none⟩ := by
  have stored : ∀ name, ¬ Program.Occurs (.hostObject name) brokenProgram :=
    (isSome_ofProgram?_iff _).mp rfl
  have fits : Fits brokenProgram := by
    intro item made
    cases made
    simp only [variant, record, ofTarget, List.map_cons, List.map_nil, Item.text,
      List.reverse_cons, List.reverse_nil, List.nil_append, List.cons_append, Item.Fits,
      Item.FitItems, Item.FitEntries, length_utf8]
    decide
  obtain ⟨bytes, encoded, -, refused⟩ := decode_of_truncated stored fits
  have alone : encode [.goto 1] = .ok (0x91 :: (Item.write _ ++ [])) := rfl
  have whole : encode brokenProgram = .ok (0x92 :: (Item.write _ ++ (Item.write _ ++ []))) := rfl
  rw [List.append_nil] at alone whole
  cases whole.symm.trans encoded
  refine ⟨_, _, rfl, rfl, fits, stored, whole, alone, refused _ ?_ ?_⟩
  · exact List.prefix_cons_inj _ |>.mpr (List.prefix_append _ _)
  · intro same
    have rest := List.self_eq_append_right.mp (List.cons.inj same).2
    exact write_ne_nil ((fits _ rfl).2.2.1) rest

end DialogueEngine.ProgramFile
