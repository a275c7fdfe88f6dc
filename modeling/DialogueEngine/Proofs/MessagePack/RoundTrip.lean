import DialogueEngine.Proofs.MessagePack.Header

/-!
# Reading what was written

An item is read back from the bytes that it is written to, with an allowance for its depth and
whatever follows it. A signed integer that is not negative comes back as an unsigned one.
-/

namespace DialogueEngine.MessagePack

/-! ## Texts -/

theorem toList_loop (bytes : ByteArray) (i : Nat) (taken : List UInt8) :
    ByteArray.toList.loop bytes i taken = taken.reverse ++ bytes.data.toList.drop i := by
  fun_induction ByteArray.toList.loop bytes i taken with
  | case1 i taken within ih =>
    have inside : i < bytes.data.toList.length := within
    rw [ih, List.drop_eq_getElem_cons inside]
    simp [ByteArray.get!, getElem!_pos, within]
  | case2 i taken passed =>
    have past : bytes.data.toList.length ≤ i := Nat.le_of_not_lt passed
    rw [List.drop_eq_nil_of_le past, List.append_nil]

@[simp]
theorem ofUtf8?_utf8 (s : String) : ofUtf8? (utf8 s) = some s := by
  have same : s.toUTF8.toList.toArray = s.toUTF8.data := by
    rw [ByteArray.toList, toList_loop]
    simp
  rw [ofUtf8?, utf8, same]
  exact dif_pos s.isValidUTF8

theorem utf8_inj {s t : String} (same : utf8 s = utf8 t) : s = t := by
  have text := congrArg ofUtf8? same
  rw [ofUtf8?_utf8, ofUtf8?_utf8] at text
  exact Option.some.inj text

/-! ## Several items -/

theorem many_succ {α : Type} {read : Reader α} {count : Nat} {bytes middle rest : Bytes} {a : α}
    {as : List α} (first : read bytes = some (a, middle))
    (others : Reader.many read count middle = some (as, rest)) :
    Reader.many read (count + 1) bytes = some (a :: as, rest) := by
  rw [Reader.many]
  simp only [first, others]

theorem many_mono {α : Type} {read more : Reader α}
    (keeps : ∀ bytes result, read bytes = some result → more bytes = some result) {count : Nat}
    {bytes : Bytes} {result : List α × Bytes} (h : Reader.many read count bytes = some result) :
    Reader.many more count bytes = some result := by
  induction count generalizing bytes result with
  | zero => exact h
  | succ count ih =>
    rw [Reader.many] at h ⊢
    cases first : read bytes with
    | none => simp [first] at h
    | some pair =>
      simp only [first] at h
      simp only [keeps _ _ first]
      cases others : Reader.many read count pair.2 with
      | none => simp [others] at h
      | some pair => simpa only [ih others, others] using h

theorem pair_mono {α : Type} {read more : Reader α}
    (keeps : ∀ bytes result, read bytes = some result → more bytes = some result)
    (bytes : Bytes) (result : (α × α) × Bytes) (h : read.pair bytes = some result) :
    more.pair bytes = some result := by
  rw [Reader.pair, Reader.andThen] at h ⊢
  cases first : read bytes with
  | none => simp [first] at h
  | some pair =>
    simp only [first, Reader.map] at h
    simp only [keeps _ _ first, Reader.map]
    obtain ⟨second, found, same⟩ := Option.map_eq_some_iff.mp h
    rw [keeps _ _ found, ← same]
    rfl

namespace Item

/-! ## Depth -/

variable {bytes rest : Bytes}

theorem read_of_item {item : Item} (start : Header.read bytes = some (.item item, rest))
    (depth : Nat) : read depth bytes = some (item, rest) := by
  cases depth <;> simp only [read, start]

theorem read_of_array {length : Nat} (start : Header.read bytes = some (.array length, rest))
    (depth : Nat) :
    read (depth + 1) bytes = (Reader.many (read depth) length).map array rest := by
  simp only [read, start]

theorem read_of_map {length : Nat} (start : Header.read bytes = some (.map length, rest))
    (depth : Nat) :
    read (depth + 1) bytes = (Reader.many (read depth).pair length).map map rest := by
  simp only [read, start]

theorem read_succ {depth : Nat} :
    ∀ bytes result, read depth bytes = some result → read (depth + 1) bytes = some result := by
  induction depth with
  | zero =>
    intro bytes result h
    cases start : Header.read bytes with
    | none => simp [read, start] at h
    | some pair =>
      obtain ⟨header, rest⟩ := pair
      cases header with
      | item item => exact (read_of_item start 1).trans ((read_of_item start 0).symm.trans h)
      | array length | map length => simp [read, start] at h
  | succ depth ih =>
    intro bytes result h
    cases start : Header.read bytes with
    | none => simp [read, start] at h
    | some pair =>
      obtain ⟨header, rest⟩ := pair
      cases header with
      | item item => exact (read_of_item start _).trans ((read_of_item start _).symm.trans h)
      | array length =>
        rw [read_of_array start, Reader.map] at h ⊢
        obtain ⟨items, found, same⟩ := Option.map_eq_some_iff.mp h
        rw [many_mono ih found, ← same]
        rfl
      | map length =>
        rw [read_of_map start, Reader.map] at h ⊢
        obtain ⟨entries, found, same⟩ := Option.map_eq_some_iff.mp h
        rw [many_mono (pair_mono ih) found, ← same]
        rfl

/-- What is read with little depth is read with more. -/
theorem read_mono {depth more : Nat} (le : depth ≤ more) {result : Item × Bytes}
    (h : read depth bytes = some result) : read more bytes = some result := by
  induction le with
  | refl => exact h
  | step _ ih => exact read_succ _ _ ih

/-! ## Items -/

mutual

/-- An item as it is read back. -/
def normal : Item → Item
  | nil => nil
  | bool b => bool b
  | unsigned n => unsigned n
  | signed i => if 0 ≤ i then unsigned i.toUInt64 else signed i
  | float x => float x
  | string bytes => string bytes
  | binary bytes => binary bytes
  | extension tag bytes => extension tag bytes
  | array items => array (normalItems items)
  | map entries => map (normalEntries entries)

def normalItems : List Item → List Item
  | [] => []
  | item :: rest => normal item :: normalItems rest

def normalEntries : List (Item × Item) → List (Item × Item)
  | [] => []
  | (key, value) :: rest => (normal key, normal value) :: normalEntries rest

end

mutual

/-- No text, array or map has a length of 2^32 or more, which MessagePack has no form for. -/
def Fits : Item → Prop
  | string bytes | binary bytes | extension _ bytes => bytes.length < 2 ^ 32
  | array items => items.length < 2 ^ 32 ∧ FitItems items
  | map entries => entries.length < 2 ^ 32 ∧ FitEntries entries
  | nil | bool _ | unsigned _ | signed _ | float _ => True

def FitItems : List Item → Prop
  | [] => True
  | item :: rest => Fits item ∧ FitItems rest

def FitEntries : List (Item × Item) → Prop
  | [] => True
  | (key, value) :: rest => Fits key ∧ Fits value ∧ FitEntries rest

end

theorem read_writeSigned (i : Int64) (rest : Bytes) :
    Header.read (writeInt i.toInt ++ rest) = some (.item (normal (signed i)), rest) := by
  have least := Int64.le_toInt i
  have greatest := Int64.toInt_lt i
  rw [normal]
  by_cases positive : 0 ≤ i
  · have toInt : 0 ≤ i.toInt := Int64.le_iff_toInt_le.mp positive
    have number : i.toInt.toNat.toUInt64 = i.toUInt64 := by
      rw [← Int64.toNatClampNeg, ← Int64.toNat_toUInt64_of_le positive]
      exact UInt64.ofNat_toNat
    rw [writeInt, if_pos toInt, Header.read_writeNat rest (by omega), number, if_pos positive]
  · have negative : i.toInt < 0 := Int64.lt_iff_toInt_lt.mp (Int64.not_le.mp positive)
    rw [if_neg positive, Header.read_writeInt rest least negative, Int64.ofInt_toInt]

theorem read_writeFloat (x : Double) (rest : Bytes) :
    Header.read (marked 0xCB 8 x.bits.toNat ++ rest) = some (.item (float x), rest) := by
  have number := nat_bigEndian 8 rest (UInt64.toNat_lt x.bits)
  have same : x.bits.toNat.toUInt64 = x.bits := UInt64.ofNat_toNat
  calc Header.read (marked 0xCB 8 x.bits.toNat ++ rest)
    _ = (Reader.nat 8).map (fun n => .item (float ⟨n.toUInt64⟩))
          (bigEndian 8 x.bits.toNat ++ rest) := rfl
    _ = some (.item (float ⟨x.bits.toNat.toUInt64⟩), rest) := by
      rw [Reader.map, number]
      rfl
    _ = some (.item (float x), rest) := by rw [same]

mutual

/-- An item is read back with enough depth. -/
theorem read_write : ∀ {item : Item} {depth : Nat} (rest : Bytes), item.Fits →
    item.depth ≤ depth → read depth (write item ++ rest) = some (normal item, rest)
  | nil, depth, rest, _, _ => by
    rw [write, normal]
    exact read_of_item rfl depth
  | bool b, depth, rest, _, _ => by
    rw [write, normal]
    cases b <;> exact read_of_item rfl depth
  | unsigned n, depth, rest, _, _ => by
    have start := Header.read_writeNat rest (UInt64.toNat_lt n)
    have same : n.toNat.toUInt64 = n := UInt64.ofNat_toNat
    rw [same] at start
    rw [write, normal]
    exact read_of_item start depth
  | signed i, depth, rest, _, _ => by
    rw [write]
    exact read_of_item (read_writeSigned i rest) depth
  | float x, depth, rest, _, _ => by
    rw [write, normal]
    exact read_of_item (read_writeFloat x rest) depth
  | string bytes, depth, rest, fits, _ => by
    rw [write, normal, List.append_assoc]
    exact read_of_item (Header.read_stringHeader rest bytes fits) depth
  | binary bytes, depth, rest, fits, _ => by
    rw [write, normal, List.append_assoc]
    exact read_of_item (Header.read_binaryHeader rest bytes fits) depth
  | extension tag bytes, depth, rest, fits, _ => by
    rw [write, normal, List.append_assoc]
    exact read_of_item (Header.read_extensionHeader rest tag bytes fits) depth
  | array items, 0, rest, _, deep => by simp [Item.depth] at deep
  | array items, depth + 1, rest, ⟨short, fit⟩, deep => by
    rw [Item.depth] at deep
    rw [write, normal, List.append_assoc, read_of_array (Header.read_arrayHeader _ short),
      Reader.map, many_writeItems rest fit (by omega)]
    rfl
  | map entries, 0, rest, _, deep => by simp [Item.depth] at deep
  | map entries, depth + 1, rest, ⟨short, fit⟩, deep => by
    rw [Item.depth] at deep
    rw [write, normal, List.append_assoc, read_of_map (Header.read_mapHeader _ short),
      Reader.map, many_writeEntries rest fit (by omega)]
    rfl

theorem many_writeItems : ∀ {items : List Item} {depth : Nat} (rest : Bytes), FitItems items →
    depthItems items ≤ depth →
      Reader.many (read depth) items.length (writeItems items ++ rest) =
        some (normalItems items, rest)
  | [], depth, rest, _, _ => rfl
  | item :: items, depth, rest, ⟨fits, fit⟩, deep => by
    rw [depthItems] at deep
    rw [writeItems, List.append_assoc]
    exact many_succ (read_write _ fits (by omega)) (many_writeItems rest fit (by omega))

theorem many_writeEntries : ∀ {entries : List (Item × Item)} {depth : Nat} (rest : Bytes),
    FitEntries entries → depthEntries entries ≤ depth →
      Reader.many (read depth).pair entries.length (writeEntries entries ++ rest) =
        some (normalEntries entries, rest)
  | [], depth, rest, _, _ => rfl
  | (key, value) :: entries, depth, rest, ⟨fitsKey, fitsValue, fit⟩, deep => by
    rw [depthEntries] at deep
    have first : (read depth).pair (write key ++ (write value ++ (writeEntries entries ++ rest))) =
        some ((normal key, normal value), writeEntries entries ++ rest) := by
      rw [Reader.pair, Reader.andThen, read_write _ fitsKey (by omega)]
      simp only [Reader.map]
      rw [read_write _ fitsValue (by omega)]
      rfl
    rw [writeEntries, List.append_assoc, List.append_assoc]
    exact many_succ first (many_writeEntries rest fit (by omega))

end

end Item

end DialogueEngine.MessagePack
