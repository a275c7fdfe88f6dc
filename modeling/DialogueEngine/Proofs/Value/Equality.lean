import DialogueEngine.Proofs.Value.Linear

/-!
# Equality of values

When two values are equal, if nothing is known of the order in which a map holds its entries: a map
is equal to another one if both have as many entries, and what is found in the other one under each
key is equal to the content. On maps that bind no key twice this is an equivalence, and values that
are canonical are equal only if they are the same. Keys are looked for by equality alone here; to
look for them by their hashes first comes to the same, since equal values have equal hashes.
-/

namespace DialogueEngine

namespace Value

mutual

/-- Values of one kind are compared by their contents, floats by their bits, lists item by item. -/
def beq : Value → Value → Bool
  | nil, nil => true
  | bool a, bool b => a = b
  | int a, int b => a = b
  | float a, float b => a.bits = b.bits
  | string a, string b => a = b
  | list as, list bs => beqItems as bs
  | map as, map bs => as.length = bs.length && beqEntries as bs
  | hostObject a, hostObject b => a = b
  | _, _ => false

def beqItems : List Value → List Value → Bool
  | [], [] => true
  | a :: as, b :: bs => beq a b && beqItems as bs
  | _, _ => false

/-- Each key has an equal content among the other entries. -/
def beqEntries : List (Value × Value) → List (Value × Value) → Bool
  | [], _ => true
  | (key, content) :: rest, others =>
      (match others.find? fun entry => beq key entry.1 with
        | some entry => beq content entry.2
        | none => false) && beqEntries rest others

end

/-- What is found under a key that is equal. -/
def lookup (key : Value) (entries : List (Value × Value)) : Option Value :=
  (entries.find? fun entry => beq key entry.1).map Prod.snd

/-- No map in the value binds a key twice. -/
def Keyed : Value → Prop := Throughout fun entries => entries.Pairwise fun a b => ¬ a.1.beq b.1

/-! ## Equality and canonical form -/

theorem canonicalEntries_eq_map (entries : List (Value × Value)) :
    canonicalEntries entries = entries.map fun entry => (entry.1.canonical, entry.2.canonical) := by
  induction entries with
  | nil => rfl
  | cons entry rest ih => rw [canonicalEntries, ih, List.map_cons]

/-- The keys of every map in the value have different canonical forms. -/
def Separated : Value → Prop :=
  Throughout fun entries => ((canonicalEntries entries).map Prod.fst).Nodup

/-- Looking for an equal key is looking for its canonical form. -/
theorem find?_canonicalEntries {key : Value} {entries : List (Value × Value)}
    (keys : ∀ entry ∈ entries, key.beq entry.1 ↔ key.canonical = entry.1.canonical) :
    Entries.find? key.canonical (canonicalEntries entries) =
      (lookup key entries).map canonical := by
  induction entries with
  | nil => rfl
  | cons entry rest ih =>
    obtain ⟨first, others⟩ := List.forall_mem_cons.mp keys
    rw [canonicalEntries, Entries.find?, lookup, List.find?_cons]
    by_cases same : key.beq entry.1
    · rw [if_pos (first.mp same).symm, same]
      rfl
    · rw [if_neg fun canonical => same (first.mpr canonical.symm), Bool.eq_false_iff.mpr same]
      exact ih others

mutual

theorem beq_iff : ∀ {a b : Value}, a.Separated → b.Separated →
    (a.beq b ↔ a.canonical = b.canonical)
  | a, b, left, right => by
    cases a <;> cases b <;> simp only [beq, canonical, reduceCtorEq, Bool.false_eq_true]
    case list.list as bs =>
      rw [list.injEq]
      exact beqItems_iff left.item right.item
    case map.map as bs =>
      rw [map.injEq, Entries.ofPairs_eq_iff (left as .self) (right bs .self), Bool.and_eq_true,
        beqEntries_iff left.entry right.entry (right bs .self)]
      simp [canonicalEntries_eq_map]
    case float.float x y =>
      rw [float.injEq, Double.mk.injEq, decide_eq_true_iff]
    all_goals simp

theorem beqItems_iff : ∀ {as bs : List Value}, (∀ a ∈ as, a.Separated) → (∀ b ∈ bs, b.Separated) →
    (beqItems as bs ↔ canonicalItems as = canonicalItems bs)
  | [], [], _, _ => by simp [beqItems]
  | [], b :: bs, _, _ | a :: as, [], _, _ => by simp [beqItems, canonicalItems]
  | a :: as, b :: bs, left, right => by
    rw [List.forall_mem_cons] at left right
    rw [beqItems, Bool.and_eq_true, beq_iff left.1 right.1, beqItems_iff left.2 right.2,
      canonicalItems, canonicalItems, List.cons.injEq]

theorem beqEntries_iff : ∀ {as bs : List (Value × Value)},
    (∀ a ∈ as, a.1.Separated ∧ a.2.Separated) → (∀ b ∈ bs, b.1.Separated ∧ b.2.Separated) →
    ((canonicalEntries bs).map Prod.fst).Nodup →
    (beqEntries as bs ↔ canonicalEntries as ⊆ canonicalEntries bs)
  | [], bs, _, _, _ => by simp [beqEntries, canonicalEntries]
  | (key, content) :: rest, bs, left, right, distinct => by
    rw [List.forall_mem_cons] at left
    have found := find?_canonicalEntries fun entry mem => beq_iff left.1.1 (right entry mem).1
    rw [beqEntries, Bool.and_eq_true, beqEntries_iff left.2 right distinct, canonicalEntries,
      List.cons_subset, ← Entries.find?_eq_some_iff distinct, found, lookup]
    refine and_congr_left fun _ => ?_
    cases equal : bs.find? fun entry => key.beq entry.1 with
    | none => simp
    | some entry =>
      have mem := List.mem_of_find?_eq_some equal
      simp only [Option.map_some, Option.some.injEq]
      exact (beq_iff left.1.2 (right entry mem).2).trans eq_comm

end

mutual

/-- Keys that are not equal have different canonical forms. -/
theorem separated_of_keyed : ∀ {value : Value}, value.Keyed → value.Separated
  | nil, _ | bool _, _ | int _, _ | float _, _ | string _, _ | hostObject _, _ => nofun
  | list items, keyed => throughout_list (separated_of_keyed_items keyed.item)
  | map entries, keyed => by
    have separated := separated_of_keyed_entries keyed.entry
    refine throughout_map ?_ separated
    rw [canonicalEntries_eq_map, List.map_map]
    refine List.pairwise_map.mpr ((keyed entries .self).imp_of_mem ?_)
    intro a b left right differ same
    exact differ ((beq_iff (separated a left).1 (separated b right).1).mpr same)

theorem separated_of_keyed_items : ∀ {items : List Value}, (∀ item ∈ items, item.Keyed) →
    ∀ item ∈ items, item.Separated
  | [], _ => List.forall_mem_nil _
  | item :: rest, keyed => by
    rw [List.forall_mem_cons] at keyed ⊢
    exact ⟨separated_of_keyed keyed.1, separated_of_keyed_items keyed.2⟩

theorem separated_of_keyed_entries : ∀ {entries : List (Value × Value)},
    (∀ entry ∈ entries, entry.1.Keyed ∧ entry.2.Keyed) →
      ∀ entry ∈ entries, entry.1.Separated ∧ entry.2.Separated
  | [], _ => List.forall_mem_nil _
  | (key, content) :: rest, keyed => by
    rw [List.forall_mem_cons] at keyed ⊢
    exact ⟨⟨separated_of_keyed keyed.1.1, separated_of_keyed keyed.1.2⟩,
      separated_of_keyed_entries keyed.2⟩

end

theorem Keyed.beq_iff {a b : Value} (left : a.Keyed) (right : b.Keyed) :
    a.beq b ↔ a.canonical = b.canonical :=
  Value.beq_iff (separated_of_keyed left) (separated_of_keyed right)

theorem Occurs.trans {a b c : Value} (inner : a.Occurs b) (outer : b.Occurs c) : a.Occurs c := by
  induction outer with
  | self => exact inner
  | item mem _ ih => exact .item mem ih
  | key mem _ ih => exact .key mem ih
  | content mem _ ih => exact .content mem ih

/-- Entries in ascending order have different keys, and they are canonical. -/
theorem Ordered.separated {value : Value} (ordered : value.Ordered) : value.Separated := by
  intro entries inner
  have within : (map entries).Throughout Entries.Ascending :=
    fun others occurs => ordered others (occurs.trans inner)
  rw [canonicalEntries_of_ordered within.entry]
  refine List.pairwise_map.mpr ((ordered entries inner).imp fun {a b} less same => ?_)
  rw [same, order_self] at less
  cases less

theorem Ordered.beq_iff {a b : Value} (left : a.Ordered) (right : b.Ordered) :
    a.beq b ↔ a = b := by
  rw [Value.beq_iff left.separated right.separated, canonical_of_ordered left,
    canonical_of_ordered right]

/-! ## Maps -/

/-- In a value with separated keys no key is bound twice. -/
theorem Separated.keyed {value : Value} (separated : value.Separated) : value.Keyed := by
  intro entries inner
  have within : (map entries).Separated :=
    fun others occurs => separated others (occurs.trans inner)
  have distinct : ((canonicalEntries entries).map Prod.fst).Nodup := separated entries inner
  rw [canonicalEntries_eq_map, List.map_map] at distinct
  refine (List.pairwise_map.mp distinct).imp_of_mem fun {a b} left right differ same => ?_
  exact differ ((Value.beq_iff (within.entry a left).1 (within.entry b right).1).mp same)

theorem Ordered.keyed {value : Value} (ordered : value.Ordered) : value.Keyed :=
  ordered.separated.keyed

section

variable {entries others : List (Value × Value)}

theorem canonicalEntries_perm (perm : entries.Perm others) :
    (canonicalEntries entries).Perm (canonicalEntries others) := by
  rw [canonicalEntries_eq_map, canonicalEntries_eq_map]
  exact perm.map _

theorem Keyed.of_perm (keyed : (map entries).Keyed) (perm : entries.Perm others) :
    (map others).Keyed := by
  have distinct := separated_of_keyed keyed entries .self
  refine Separated.keyed (throughout_map ?_ fun entry mem => ?_)
  · exact ((canonicalEntries_perm perm).map Prod.fst).nodup_iff.mp distinct
  · have entry := keyed.entry entry (perm.mem_iff.mpr mem)
    exact ⟨separated_of_keyed entry.1, separated_of_keyed entry.2⟩

theorem Keyed.beq_of_perm (keyed : (map entries).Keyed) (perm : entries.Perm others) :
    (map entries).beq (map others) := by
  rw [keyed.beq_iff (keyed.of_perm perm), canonical, canonical,
    Entries.ofPairs_eq_of_perm (separated_of_keyed keyed _ .self) (canonicalEntries_perm perm)]

/-- What is found in a map is what is found in its canonical form. -/
theorem Keyed.find?_canonical {key : Value} (keyed : (map entries).Keyed) (key_keyed : key.Keyed) :
    Entries.find? key.canonical (Entries.ofPairs (canonicalEntries entries)) =
      (lookup key entries).map canonical := by
  rw [Entries.find?_ofPairs (separated_of_keyed keyed _ .self)]
  exact find?_canonicalEntries fun entry mem => key_keyed.beq_iff (keyed.entry entry mem).1

theorem mem_of_lookup {key content : Value} (found : lookup key entries = some content) :
    ∃ entry ∈ entries, entry.2 = content := by
  obtain ⟨entry, found, same⟩ := Option.map_eq_some_iff.mp found
  exact ⟨entry, List.mem_of_find?_eq_some found, same⟩

/-- Equal keys are bound to equal contents in equal maps. -/
theorem Keyed.lookup_congr {key other : Value} (left : (map entries).Keyed)
    (right : (map others).Keyed) (key_keyed : key.Keyed) (other_keyed : other.Keyed)
    (keys : key.beq other) (maps : (map entries).beq (map others)) :
    Option.Rel (fun a b => a.beq b) (lookup key entries) (lookup other others) := by
  have found := left.find?_canonical key_keyed
  rw [(key_keyed.beq_iff other_keyed).mp keys, map.inj ((left.beq_iff right).mp maps),
    right.find?_canonical other_keyed] at found
  cases first : lookup key entries <;> cases second : lookup other others <;>
    rw [first, second] at found
  case none.none => exact .none
  case some.some =>
    obtain ⟨entry, mem, rfl⟩ := mem_of_lookup first
    obtain ⟨entry', mem', rfl⟩ := mem_of_lookup second
    have content : entry.2.Keyed := (left.entry entry mem).2
    have content' : entry'.2.Keyed := (right.entry entry' mem').2
    exact .some ((content.beq_iff content').mpr (Option.some.inj found).symm)
  all_goals cases found

/-- In a canonical map a key is found by what it is. -/
theorem Ordered.find?_eq_lookup {key : Value} (ordered : (map entries).Ordered)
    (key_ordered : key.Ordered) : Entries.find? key entries = lookup key entries := by
  have found := ordered.keyed.find?_canonical key_ordered.keyed
  rw [canonical_of_ordered key_ordered, map.inj (canonical_of_ordered ordered)] at found
  cases content : lookup key entries with
  | none => rw [found, content, Option.map_none]
  | some value =>
    obtain ⟨entry, mem, rfl⟩ := mem_of_lookup content
    have same : entry.2.canonical = entry.2 := canonical_of_ordered fun others inner =>
      ordered others (.content mem inner)
    rw [found, content, Option.map_some, same]

/-- Binding canonical keys to canonical contents makes a canonical map. -/
theorem ordered_ofPairs (within : ∀ entry ∈ entries, entry.1.Ordered ∧ entry.2.Ordered) :
    (map (Entries.ofPairs entries)).Ordered :=
  throughout_map (Entries.ascending_ofPairs entries) fun entry mem =>
    ⟨fun others inner => (within entry (Entries.mem_of_mem_ofPairs mem)).1 others inner,
      fun others inner => (within entry (Entries.mem_of_mem_ofPairs mem)).2 others inner⟩

end

/-- A value as it is stored. -/
abbrev Stored := { value : Value // value.Keyed }

/-- Values are equal if they have one canonical form, and that is an equivalence. -/
theorem Stored.equivalence : Equivalence fun a b : Stored => a.val.beq b.val where
  refl a := (a.property.beq_iff a.property).mpr rfl
  symm {a b} same :=
    (b.property.beq_iff a.property).mpr ((a.property.beq_iff b.property).mp same).symm
  trans {a b c} first second :=
    (a.property.beq_iff c.property).mpr (((a.property.beq_iff b.property).mp first).trans
      ((b.property.beq_iff c.property).mp second))

/-- Equality is an equivalence that maps can rely on: the order of the entries does not matter, and
equal keys are bound to equal contents in equal maps. On canonical values it is identity, what is
bound to a key is found by identity, and binding different keys in any order makes one canonical
map. -/
theorem equality_of_maps :
    (Equivalence fun a b : Stored => a.val.beq b.val) ∧
    (∀ entries others : List (Value × Value), (map entries).Keyed → entries.Perm others →
      (map others).Keyed ∧ (map entries).beq (map others)) ∧
    (∀ (entries others : List (Value × Value)) (key other : Stored),
      (map entries).Keyed → (map others).Keyed →
      key.val.beq other.val → (map entries).beq (map others) →
        Option.Rel (fun a b => a.beq b) (lookup key entries) (lookup other others)) ∧
    (∀ a b : Value, a.Ordered → b.Ordered → a.Keyed ∧ (a.beq b ↔ a = b)) ∧
    (∀ (key : Value) (entries : Entries), key.Ordered → (map entries).Ordered →
      Entries.find? key entries = lookup key entries) ∧
    ∀ pairs : List (Value × Value), (∀ pair ∈ pairs, pair.1.Ordered ∧ pair.2.Ordered) →
      (map (Entries.ofPairs pairs)).Ordered ∧
      ∀ others, (pairs.map Prod.fst).Nodup → pairs.Perm others →
        Entries.ofPairs pairs = Entries.ofPairs others := by
  refine ⟨Stored.equivalence, ?order, ?lookup, ?canonical, ?find, ?build⟩
  case order => exact fun _ _ keyed perm => ⟨keyed.of_perm perm, keyed.beq_of_perm perm⟩
  case lookup =>
    intro entries others key other left right keys maps
    exact left.lookup_congr right key.property other.property keys maps
  case canonical => exact fun a b left right => ⟨left.keyed, left.beq_iff right⟩
  case find => exact fun key entries key_ordered ordered => ordered.find?_eq_lookup key_ordered
  case build =>
    intro pairs within
    exact ⟨ordered_ofPairs within, fun _ distinct perm =>
      Entries.ofPairs_eq_of_perm distinct perm⟩

/-- A map in which one key is not a number, and another one a list of it. -/
theorem equality_of_maps_nan :
    (map [(float .nan, int 1), (list [float .nan], nil)]).Keyed ∧
      (map [(float .nan, int 1), (list [float .nan], nil)]).beq
        (map [(list [float .nan], nil), (float .nan, int 1)]) := by
  have keyed : (map [(float .nan, int 1), (list [float .nan], nil)]).Keyed := by
    have nan : (float .nan).Keyed := by
      intro entries inner
      cases inner
    have contents : (int 1).Keyed ∧ nil.Keyed := by
      constructor <;> intro entries inner <;> cases inner
    refine throughout_map (by decide) ?_
    have list_keyed := throughout_list (List.forall_mem_singleton.mpr nan)
    simp only [List.forall_mem_cons]
    exact ⟨⟨nan, contents.1⟩, ⟨list_keyed, contents.2⟩, List.forall_mem_nil _⟩
  exact ⟨keyed, (equality_of_maps.2.1 _ _ keyed (.swap _ _ _)).2⟩

end Value

end DialogueEngine
