import DialogueEngine.Proofs.Value.Equality

/-!
# Hashes of values

What a value writes to a hasher, and what a map finds when it compares a key only with the keys of
the same hash. Equal values write the same, in whatever order their maps hold the entries. So a map
that goes by hashes first misses nothing, and finds what is found by equality alone.
-/

namespace DialogueEngine

/-- A piece of what is written to a hasher. -/
inductive Piece where
  | number (n : Nat)
  | bool (b : Bool)
  | int (i : Int64)
  | bits (word : UInt64)
  | text (s : String)
  | identity (name : String)

/-- What a hasher makes of all that has been written to it. -/
abbrev Digest := List Piece → UInt64

namespace Value

variable (inner : Digest)

mutual

/-- The kind of the value, and then its content, floats by their bits and lists after their length.
A map writes its size and the sum of the hashes of its entries, each of which is hashed apart. -/
def pieces : Value → List Piece
  | nil => [.number 0]
  | bool b => [.number 1, .bool b]
  | int i => [.number 2, .int i]
  | float x => [.number 3, .bits x.bits]
  | string s => [.number 4, .text s]
  | list items => .number 5 :: .number items.length :: itemPieces items
  | map entries =>
      [.number 6, .number entries.length, .bits ((entryHashes entries).foldl (· + ·) 0)]
  | hostObject name => [.number 7, .identity name]

def itemPieces : List Value → List Piece
  | [] => []
  | item :: rest => pieces item ++ itemPieces rest

def entryHashes : List (Value × Value) → List UInt64
  | [] => []
  | (key, content) :: rest => inner (pieces key ++ pieces content) :: entryHashes rest

end

theorem entryHashes_eq_map (entries : List (Value × Value)) :
    entryHashes inner entries =
      entries.map fun entry => inner (entry.1.pieces inner ++ entry.2.pieces inner) := by
  induction entries with
  | nil => rfl
  | cons entry rest ih => rw [entryHashes, ih, List.map_cons]

/-- The sum does not depend on the order of the entries. -/
theorem foldl_entryHashes_perm {entries others : List (Value × Value)}
    (perm : entries.Perm others) :
    (entryHashes inner entries).foldl (· + ·) 0 = (entryHashes inner others).foldl (· + ·) 0 := by
  rw [entryHashes_eq_map, entryHashes_eq_map]
  refine (perm.map _).foldl_eq' ?_ 0
  intro first _ second _ sum
  rw [UInt64.add_assoc, UInt64.add_comm first second, ← UInt64.add_assoc]

theorem length_canonicalItems (items : List Value) :
    (canonicalItems items).length = items.length := by
  induction items with
  | nil => rfl
  | cons item rest ih => rw [canonicalItems, List.length_cons, ih, List.length_cons]

mutual

/-- A value writes what its canonical form does. -/
theorem pieces_canonical : ∀ {value : Value}, value.Separated →
    value.canonical.pieces inner = value.pieces inner
  | nil, _ | bool _, _ | int _, _ | float _, _ | string _, _ | hostObject _, _ => by rw [canonical]
  | list items, separated => by
    rw [canonical, pieces, pieces, length_canonicalItems, itemPieces_canonical separated.item]
  | map entries, separated => by
    have perm : (Entries.ofPairs (canonicalEntries entries)).Perm (canonicalEntries entries) :=
      Entries.ofPairs_perm (separated entries .self)
    have length : (canonicalEntries entries).length = entries.length := by
      rw [canonicalEntries_eq_map, List.length_map]
    rw [canonical, pieces, pieces, perm.length_eq, length, foldl_entryHashes_perm inner perm,
      entryHashes_canonical separated.entry]

theorem itemPieces_canonical : ∀ {items : List Value}, (∀ item ∈ items, item.Separated) →
    itemPieces inner (canonicalItems items) = itemPieces inner items
  | [], _ => rfl
  | item :: rest, separated => by
    rw [List.forall_mem_cons] at separated
    rw [canonicalItems, itemPieces, itemPieces, pieces_canonical separated.1,
      itemPieces_canonical separated.2]

theorem entryHashes_canonical : ∀ {entries : List (Value × Value)},
    (∀ entry ∈ entries, entry.1.Separated ∧ entry.2.Separated) →
      entryHashes inner (canonicalEntries entries) = entryHashes inner entries
  | [], _ => rfl
  | (key, content) :: rest, separated => by
    rw [List.forall_mem_cons] at separated
    rw [canonicalEntries, entryHashes, entryHashes, pieces_canonical separated.1.1,
      pieces_canonical separated.1.2, entryHashes_canonical separated.2]

end

/-- Equal values write the same, so they have one hash. -/
theorem Keyed.pieces_eq_of_beq {a b : Value} (left : a.Keyed) (right : b.Keyed)
    (same : a.beq b) : a.pieces inner = b.pieces inner := by
  have canonical := (left.beq_iff right).mp same
  have first := pieces_canonical inner (separated_of_keyed left)
  have second := pieces_canonical inner (separated_of_keyed right)
  calc
    a.pieces inner = a.canonical.pieces inner := first.symm
    _ = b.canonical.pieces inner := by rw [canonical]
    _ = b.pieces inner := second

/-! ## Maps that go by hashes -/

variable (outer : Digest)

/-- What is found under a key that has the same hash and is equal. The hasher of the map need not be
the one that hashes the entries of maps within keys. -/
def lookupByHash (key : Value) (entries : List (Value × Value)) : Option Value :=
  (entries.find? fun entry =>
    outer (key.pieces inner) == outer (entry.1.pieces inner) && key.beq entry.1).map Prod.snd

section

variable {entries others : List (Value × Value)}

/-- Nothing is missed if keys that are equal write the same. -/
theorem lookupByHash_eq_of_pieces {key : Value}
    (alike : ∀ entry ∈ entries, key.beq entry.1 → key.pieces inner = entry.1.pieces inner) :
    lookupByHash inner outer key entries = lookup key entries := by
  induction entries with
  | nil => rfl
  | cons entry rest ih =>
    obtain ⟨first, others⟩ := List.forall_mem_cons.mp alike
    have missed := ih others
    unfold lookupByHash lookup at missed ⊢
    rw [List.find?_cons, List.find?_cons]
    by_cases equal : key.beq entry.1
    · rw [first equal, beq_self_eq_true, Bool.true_and, equal]
    · rw [Bool.eq_false_iff.mpr equal, Bool.and_false]
      exact missed

theorem Keyed.lookupByHash_eq {key : Value} (keyed : (map entries).Keyed)
    (key_keyed : key.Keyed) : lookupByHash inner outer key entries = lookup key entries := by
  apply lookupByHash_eq_of_pieces
  intro entry mem equal
  exact key_keyed.pieces_eq_of_beq inner (keyed.entry entry mem).1 equal

theorem beqEntries_iff_lookup :
    beqEntries entries others ↔
      ∀ entry ∈ entries, ∃ content, lookup entry.1 others = some content ∧ entry.2.beq content := by
  induction entries with
  | nil => simp [beqEntries]
  | cons entry rest ih =>
    rw [beqEntries, Bool.and_eq_true, ih, List.forall_mem_cons, lookup]
    refine and_congr_left fun _ => ?_
    cases others.find? fun other => entry.1.beq other.1 <;> simp

/-- Maps are equal if they are of one size, and each key of the one is bound to an equal content in
the other when it is looked for by its hash. -/
theorem Keyed.beq_iff_lookupByHash (left : (map entries).Keyed) (right : (map others).Keyed) :
    (map entries).beq (map others) ↔ entries.length = others.length ∧ ∀ entry ∈ entries,
      ∃ content, lookupByHash inner outer entry.1 others = some content ∧
        entry.2.beq content := by
  rw [beq, Bool.and_eq_true, decide_eq_true_iff, beqEntries_iff_lookup]
  refine and_congr_right fun _ => forall₂_congr fun entry mem => ?_
  rw [right.lookupByHash_eq inner outer (left.entry entry mem).1]

/-- In a canonical map a key is found by what it is, as it is by its hash. -/
theorem Ordered.find?_eq_lookupByHash {key : Value} (ordered : (map entries).Ordered)
    (key_ordered : key.Ordered) :
    Entries.find? key entries = lookupByHash inner outer key entries := by
  rw [ordered.find?_eq_lookup key_ordered, ordered.keyed.lookupByHash_eq inner outer
    key_ordered.keyed]

end

end Value

end DialogueEngine
