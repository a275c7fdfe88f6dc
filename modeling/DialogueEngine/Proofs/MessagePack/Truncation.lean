import DialogueEngine.Proofs.MessagePack.RoundTrip

/-!
# Truncated items

A reader looks at nothing behind what it takes. So what has been read from the front of some bytes
is read from all of them, and an item is not read from bytes that break off before its end.
-/

namespace DialogueEngine.MessagePack

variable {α β : Type}

namespace Reader

/-- What is read does not depend on the bytes behind it. -/
def Steady (read : Reader α) : Prop :=
  ∀ ⦃bytes : Bytes⦄ ⦃a : α⦄ ⦃rest : Bytes⦄, read bytes = some (a, rest) →
    ∀ more, read (bytes ++ more) = some (a, rest ++ more)

theorem steady_take (count : Nat) : Steady (take count) := by
  intro bytes taken rest h more
  obtain ⟨full, same⟩ := Option.ite_none_right_eq_some.mp h
  cases same
  have enough : count ≤ bytes.length := by
    rw [List.length_take] at full
    omega
  rw [take, List.take_append_of_le_length enough, List.drop_append_of_le_length enough, if_pos full]

theorem Steady.map {read : Reader α} (steady : read.Steady) (f : α → β) : (read.map f).Steady := by
  intro bytes b rest h more
  obtain ⟨⟨a, rest⟩, first, same⟩ := Option.map_eq_some_iff.mp h
  cases same
  rw [Reader.map, steady first more]
  rfl

theorem Steady.andThen {read : Reader α} {next : α → Reader β} (steady : read.Steady)
    (goesOn : ∀ a, (next a).Steady) : (read.andThen next).Steady := by
  intro bytes b rest h more
  rw [Reader.andThen] at h ⊢
  cases first : read bytes with
  | none => simp [first] at h
  | some pair =>
    simp only [first] at h
    rw [steady first more]
    exact goesOn pair.1 h more

theorem Steady.pair {read : Reader α} (steady : read.Steady) : read.pair.Steady :=
  steady.andThen fun _ => steady.map _

theorem Steady.many {read : Reader α} (steady : read.Steady) (count : Nat) :
    (many read count).Steady := by
  induction count with
  | zero =>
    intro bytes as rest h more
    cases h
    rfl
  | succ count ih =>
    intro bytes as rest h more
    rw [Reader.many] at h
    cases first : read bytes with
    | none => simp [first] at h
    | some pair =>
      simp only [first] at h
      cases others : Reader.many read count pair.2 with
      | none => simp [others] at h
      | some last =>
        simp only [others] at h
        cases h
        exact many_succ (steady first more) (ih others more)

theorem steady_nat (width : Nat) : (nat width).Steady := (steady_take width).map _

end Reader

open Reader

namespace Header

theorem steady_unsigned (width : Nat) : (unsigned width).Steady := (steady_nat width).map _

theorem steady_signed (width : Nat) : (signed width).Steady := (steady_nat width).map _

theorem steady_string (length : Nat) : (string length).Steady := (steady_take length).map _

theorem steady_binary (length : Nat) : (binary length).Steady := (steady_take length).map _

theorem steady_extension (length : Nat) : (extension length).Steady :=
  (steady_nat 1).andThen fun _ => (steady_take length).map _

theorem steady_sized (width : Nat) {read : Nat → Reader Header} (steady : ∀ n, (read n).Steady) :
    (sized width read).Steady := (steady_nat width).andThen steady

theorem steady_read : Reader.Steady read := by
  intro bytes header rest h more
  cases bytes with
  | nil => cases h
  | cons marker bytes =>
    rw [List.cons_append]
    revert h
    -- the marker says which reader takes the bytes behind it
    simp only [read]
    have stays (header' : Header) (h : some (header', bytes) = some (header, rest)) :
        some (header', bytes ++ more) = some (header, rest ++ more) := by
      cases h
      rfl
    split
    · exact stays _
    split
    · exact stays _
    split
    · exact stays _
    split
    · exact fun h => steady_string _ h more
    split
    · exact stays _
    split
    case h_1 | h_2 | h_3 => exact stays _
    case h_4 | h_5 | h_6 => exact fun h => steady_sized _ steady_binary h more
    case h_7 | h_8 | h_9 => exact fun h => steady_sized _ steady_extension h more
    case h_10 | h_11 | h_28 | h_29 | h_30 | h_31 => exact fun h => (steady_nat _).map _ h more
    case h_12 | h_13 | h_14 | h_15 => exact fun h => steady_unsigned _ h more
    case h_16 | h_17 | h_18 | h_19 => exact fun h => steady_signed _ h more
    case h_20 | h_21 | h_22 | h_23 | h_24 => exact fun h => steady_extension _ h more
    case h_25 | h_26 | h_27 => exact fun h => steady_sized _ steady_string h more
    case h_32 =>
      intro unused
      cases unused

end Header

namespace Item

theorem steady_read (depth : Nat) : Steady (read depth) := by
  induction depth with
  | zero =>
    intro bytes item rest h more
    cases start : Header.read bytes with
    | none => simp [read, start] at h
    | some pair =>
      obtain ⟨header, behind⟩ := pair
      cases header with
      | item other =>
        cases (read_of_item start 0).symm.trans h
        exact read_of_item (Header.steady_read start more) 0
      | array length | map length => simp [read, start] at h
  | succ depth ih =>
    intro bytes item rest h more
    cases start : Header.read bytes with
    | none => simp [read, start] at h
    | some pair =>
      obtain ⟨header, behind⟩ := pair
      have again := Header.steady_read start more
      cases header with
      | item other =>
        cases (read_of_item start _).symm.trans h
        exact read_of_item again _
      | array length =>
        rw [read_of_array start] at h
        rw [read_of_array again]
        exact (ih.many length).map array h more
      | map length =>
        rw [read_of_map start] at h
        rw [read_of_map again]
        exact (ih.pair.many length).map map h more

/-- An item is not read from bytes that break off before its end. -/
theorem read_of_truncated {item : Item} (fits : item.Fits) {cut : Bytes}
    (front : cut <+: item.write) (short : cut ≠ item.write) (depth : Nat) :
    read depth cut = none := by
  obtain ⟨more, whole⟩ := front
  rw [Option.eq_none_iff_forall_ne_some]
  rintro ⟨other, rest⟩ found
  have all := steady_read depth found more
  rw [whole] at all
  have deep := read_mono (Nat.le_max_left depth item.depth) all
  have written := read_write [] fits (Nat.le_max_right depth item.depth)
  rw [List.append_nil] at written
  -- what lies behind the item is nothing, and so is what has been cut off
  cases (List.append_eq_nil_iff.mp (Prod.mk.inj (Option.some.inj (deep.symm.trans written))).2).2
  exact short (by rwa [List.append_nil] at whole)

end Item

end DialogueEngine.MessagePack
