import DialogueEngine.Proofs.ProgramFile.RoundTrip

/-!
# Program files with bytes left over

A program is read from the front of its file. What stands behind it is not looked at, be it the end
of a longer program that has been written over, another program or no item at all.
-/

namespace DialogueEngine.ProgramFile

open MessagePack (Item)

/-- A program without host objects is read from its file whatever has been left behind it, just as
it is read from the file alone. The bytes that are left over are no reason for a failure; the only
one is that the program has more levels than reading goes down. -/
theorem decode_of_followed {program : Program}
    (stored : ∀ name, ¬ Program.Occurs (.hostObject name) program) (fits : Fits program) :
    ∃ bytes, encode program = .ok bytes ∧ ∀ rest,
      decode (bytes ++ rest) = decode bytes ∧ ReadBack (bytes ++ rest) program := by
  obtain ⟨bytes, encoded⟩ := (exists_encode_iff program).mpr stored
  refine ⟨bytes, encoded, fun rest => ?_⟩
  have read := decode?_append_of_encode fits encoded rest
  refine ⟨?_, readBack_of_decode? read⟩
  rw [decode, decode, read, decode?_of_encode fits encoded]

/-- A program that may be written over a longer one. -/
def shortProgram : Program := [.goto 1]

/-- What such a file may end in: the last instruction of the longer program. -/
def remnant : Bytes := (Item.text "RETURN").write

theorem stored_shortProgram (name : String) :
    ¬ Program.Occurs (.hostObject name) shortProgram := (isSome_ofProgram?_iff _).mp rfl name

theorem fits_shortProgram : Fits shortProgram := by
  intro item made
  cases made
  simp only [variant, record, ofTarget, List.map_cons, List.map_nil, Item.text, List.reverse_cons,
    List.reverse_nil, List.nil_append, Item.Fits, Item.FitItems, Item.FitEntries, length_utf8]
  decide

theorem decode_of_followed_shortProgram :
    (∀ name, ¬ Program.Occurs (.hostObject name) shortProgram) ∧ Fits shortProgram ∧
    ∃ bytes, encode shortProgram = .ok bytes ∧
      decode (bytes ++ remnant) = .ok (Program.canonical shortProgram) := by
  obtain ⟨bytes, encoded, read⟩ := decode_of_followed stored_shortProgram fits_shortProgram
  exact ⟨stored_shortProgram, fits_shortProgram, bytes, encoded,
    (read remnant).2.canonical.mpr (by decide)⟩

/-- A shorter program that is written over a longer one is read as if the file ended with it. -/
theorem left_over_not_refused :
    ¬ ∀ program : Program, (∀ name, ¬ Program.Occurs (.hostObject name) program) →
      ∀ bytes rest, encode program = .ok bytes → rest ≠ [] →
        ∃ message, decode (bytes ++ rest) = .error ⟨.serialization message, none⟩ := by
  intro refused
  have encoded : encode shortProgram = .ok _ := rfl
  obtain ⟨message, failed⟩ :=
    refused shortProgram stored_shortProgram _ remnant encoded (by decide +kernel)
  have read : decode (_ ++ remnant) = .ok (Program.canonical shortProgram) :=
    (readBack_of_decode? (decode?_append_of_encode fits_shortProgram encoded remnant)).canonical.mpr
      (by decide)
  cases read.symm.trans failed

end DialogueEngine.ProgramFile
