import DialogueEngine.Proofs.Value.Canonical
import Mathlib.Data.List.Sort

/-!
# Entries in order

The order of values is linear, and so there is one way only to put bindings in order: however keys
are bound one after the other, the entries stand in ascending order, and bindings of different keys
come to the same entries in whatever order they are made.
-/

namespace DialogueEngine

namespace Value

variable {a b : Value}

theorem order_of_rank_ne (different : a.rank ≠ b.rank) : a.order b = compare a.rank b.rank := by
  cases a <;> cases b <;> first | rfl | exact absurd rfl different

theorem order_of_rank_lt (less : a.rank < b.rank) : a.order b = .lt := by
  rw [order_of_rank_ne (Nat.ne_of_lt less), Nat.compare_eq_lt]
  exact less

theorem rank_le_of_order_lt (less : a.order b = .lt) : a.rank ≤ b.rank := by
  by_contra greater
  rw [order_of_rank_ne (Nat.ne_of_gt (Nat.lt_of_not_le greater)), Nat.compare_eq_lt] at less
  exact greater (Nat.le_of_lt less)

/-- Comparing by one thing after another is transitive if either comparison is. -/
theorem then_lt_trans {o₁ o₂ o p₁ p₂ p : Ordering} (trans : o₁ = .lt → o₂ = .lt → o = .lt)
    (left : o₁ = .eq → o = o₂) (right : o₂ = .eq → o = o₁) (next : p₁ = .lt → p₂ = .lt → p = .lt)
    (first : o₁.then p₁ = .lt) (second : o₂.then p₂ = .lt) : o.then p = .lt := by
  rw [Ordering.then_eq_lt] at first second ⊢
  rcases first with first | ⟨same, first⟩
  · rcases second with second | ⟨same, -⟩
    · exact .inl (trans first second)
    · exact .inl ((right same).trans first)
  · rcases second with second | ⟨same', second⟩
    · exact .inl ((left same).trans second)
    · exact .inr ⟨(left same).trans same', next first second⟩

mutual

theorem order_lt_trans : ∀ {a b c : Value}, a.order b = .lt → b.order c = .lt → a.order c = .lt
  | a, b, c, first, second => by
    have below := rank_le_of_order_lt first
    have above := rank_le_of_order_lt second
    refine (Nat.lt_or_ge a.rank c.rank).elim order_of_rank_lt fun greater => ?_
    have left : a.rank = b.rank := Nat.le_antisymm below (above.trans greater)
    have right : b.rank = c.rank := Nat.le_antisymm above (greater.trans below)
    -- only values of one kind are left
    cases a <;> cases b <;> cases left <;> cases c <;> cases right <;>
      simp only [order] at first second ⊢
    case nil.nil.refl.nil.refl => cases first
    case list.list.refl.list.refl => exact orderItems_lt_trans first second
    case map.map.refl.map.refl =>
      refine then_lt_trans Std.TransCmp.lt_trans ?_ ?_ orderEntries_lt_trans first second
      · intro same
        rw [Nat.compare_eq_eq.mp same]
      · intro same
        rw [Nat.compare_eq_eq.mp same]
    all_goals exact Std.TransCmp.lt_trans first second

theorem orderItems_lt_trans : ∀ {as bs cs : List Value},
    orderItems as bs = .lt → orderItems bs cs = .lt → orderItems as cs = .lt
  | [], _ :: _, _ :: _, _, _ => rfl
  | a :: as, b :: bs, c :: cs, first, second => by
    refine then_lt_trans order_lt_trans ?_ ?_ orderItems_lt_trans first second
    · intro same
      rw [order_eq_iff.mp same]
    · intro same
      rw [order_eq_iff.mp same]

theorem orderEntries_lt_trans : ∀ {as bs cs : List (Value × Value)},
    orderEntries as bs = .lt → orderEntries bs cs = .lt → orderEntries as cs = .lt
  | [], _ :: _, _ :: _, _, _ => rfl
  | (k, a) :: as, (l, b) :: bs, (m, c) :: cs, first, second => by
    refine then_lt_trans (then_lt_trans order_lt_trans ?_ ?_ order_lt_trans) ?_ ?_
      orderEntries_lt_trans first second
    · intro same
      rw [order_eq_iff.mp same]
    · intro same
      rw [order_eq_iff.mp same]
    · intro same
      obtain ⟨keys, contents⟩ := Ordering.then_eq_eq.mp same
      rw [order_eq_iff.mp keys, order_eq_iff.mp contents]
    · intro same
      obtain ⟨keys, contents⟩ := Ordering.then_eq_eq.mp same
      rw [order_eq_iff.mp keys, order_eq_iff.mp contents]

end

end Value

namespace Entries

variable {entries pairs others : Entries} {key value : Value}

theorem mem_insert {entry : Value × Value} (mem : entry ∈ insert key value entries) :
    entry = (key, value) ∨ entry ∈ entries := by
  induction entries with
  | nil => exact .inl (List.mem_singleton.mp mem)
  | cons head rest ih =>
    rw [insert] at mem
    split at mem
    · exact List.mem_cons.mp mem
    · exact (List.mem_cons.mp mem).imp_right (List.mem_cons_of_mem head)
    · rcases List.mem_cons.mp mem with rfl | mem
      · exact .inr List.mem_cons_self
      · exact (ih mem).imp_right (List.mem_cons_of_mem head)

theorem ascending_insert (key value : Value) (ascending : Ascending entries) :
    Ascending (insert key value entries) := by
  induction entries with
  | nil => exact List.pairwise_singleton _ _
  | cons head rest ih =>
    obtain ⟨above, later⟩ := List.pairwise_cons.mp ascending
    rw [insert]
    split
    · next less =>
      refine List.pairwise_cons.mpr ⟨fun entry mem => ?_, ascending⟩
      rcases List.mem_cons.mp mem with rfl | mem
      · exact less
      · exact Value.order_lt_trans less (above entry mem)
    · next same =>
      refine List.pairwise_cons.mpr ⟨fun entry mem => ?_, later⟩
      rw [Value.order_eq_iff.mp same]
      exact above entry mem
    · next greater =>
      refine List.pairwise_cons.mpr ⟨fun entry mem => ?_, ih later⟩
      rcases mem_insert mem with rfl | mem
      · rw [← Value.order_swap, greater]
        rfl
      · exact above entry mem

theorem ascending_ofPairs (pairs : List (Value × Value)) : Ascending (ofPairs pairs) := by
  have each (entries : Entries) (ascending : Ascending entries) :
      Ascending (pairs.foldl (fun entries pair => insert pair.1 pair.2 entries) entries) := by
    induction pairs generalizing entries with
    | nil => exact ascending
    | cons pair rest ih => exact ih _ (ascending_insert pair.1 pair.2 ascending)
  exact each [] .nil

theorem insert_perm (value : Value) (fresh : key ∉ entries.map Prod.fst) :
    (insert key value entries).Perm ((key, value) :: entries) := by
  induction entries with
  | nil => exact .refl _
  | cons head rest ih =>
    rw [List.map_cons, List.mem_cons, not_or] at fresh
    rw [insert]
    split
    · exact .refl _
    · next same => exact absurd (Value.order_eq_iff.mp same) fresh.1
    · exact ((ih fresh.2).cons head).trans (.swap _ _ _)

theorem foldl_insert_perm (distinct : ((entries ++ pairs).map Prod.fst).Nodup) :
    (pairs.foldl (fun entries pair => insert pair.1 pair.2 entries) entries).Perm
      (entries ++ pairs) := by
  induction pairs generalizing entries with
  | nil => rw [List.append_nil, List.foldl_nil]
  | cons pair rest ih =>
    have fresh : pair.1 ∉ entries.map Prod.fst := by
      rw [List.map_append, List.map_cons] at distinct
      exact fun mem => (List.nodup_append.mp distinct).2.2 _ mem _ List.mem_cons_self rfl
    have moved : (insert pair.1 pair.2 entries ++ rest).Perm (entries ++ pair :: rest) :=
      ((insert_perm pair.2 fresh).append_right rest).trans List.perm_middle.symm
    exact (ih ((moved.map Prod.fst).nodup_iff.mpr distinct)).trans moved

/-- Bindings of different keys are put in order, and nothing else happens to them. -/
theorem ofPairs_perm (distinct : (pairs.map Prod.fst).Nodup) : (ofPairs pairs).Perm pairs :=
  foldl_insert_perm distinct

theorem Ascending.eq_of_perm (first : Ascending entries) (second : Ascending others)
    (perm : entries.Perm others) : entries = others := by
  refine perm.eq_of_pairwise (fun a b _ _ less greater => ?_) first second
  rw [← Value.order_swap, less] at greater
  cases greater

theorem ofPairs_eq_of_perm (distinct : (pairs.map Prod.fst).Nodup) (perm : pairs.Perm others) :
    ofPairs pairs = ofPairs others := by
  have distinct' := (perm.map Prod.fst).nodup_iff.mp distinct
  exact (ascending_ofPairs pairs).eq_of_perm (ascending_ofPairs others)
    ((ofPairs_perm distinct).trans (perm.trans (ofPairs_perm distinct').symm))

/-- Two lists of bindings come to the same entries if they have the same length and one has all that
the other has: with different keys there is no room for more. -/
theorem ofPairs_eq_iff (distinct : (pairs.map Prod.fst).Nodup)
    (distinct' : (others.map Prod.fst).Nodup) :
    ofPairs pairs = ofPairs others ↔ pairs.length = others.length ∧ pairs ⊆ others := by
  constructor
  · intro same
    have perm : pairs.Perm others := by
      refine (ofPairs_perm distinct).symm.trans ?_
      rw [same]
      exact ofPairs_perm distinct'
    exact ⟨perm.length_eq, perm.subset⟩
  · rintro ⟨length, within⟩
    have perm := (List.subperm_of_subset (.of_map Prod.fst distinct) within).perm_of_length_le
      (Nat.le_of_eq length.symm)
    exact ofPairs_eq_of_perm distinct perm

theorem find?_eq_some_iff (distinct : (entries.map Prod.fst).Nodup) :
    find? key entries = some value ↔ (key, value) ∈ entries := by
  induction entries with
  | nil => simp
  | cons head rest ih =>
    obtain ⟨k, v⟩ := head
    rw [List.map_cons, List.nodup_cons] at distinct
    rw [find?, List.mem_cons, ← ih distinct.2, Prod.mk.injEq]
    by_cases same : k = key
    · subst same
      have unbound : find? k rest ≠ some value := fun bound =>
        distinct.1 (List.mem_map.mpr ⟨_, (ih distinct.2).mp bound, rfl⟩)
      simp [unbound, eq_comm]
    · simp [same, Ne.symm same]

theorem find?_ofPairs (distinct : (pairs.map Prod.fst).Nodup) :
    find? key (ofPairs pairs) = find? key pairs := by
  have perm := ofPairs_perm distinct
  have distinct' := (perm.map Prod.fst).nodup_iff.mpr distinct
  refine Option.ext fun value => ?_
  rw [find?_eq_some_iff distinct', find?_eq_some_iff distinct, perm.mem_iff]

theorem mem_of_mem_foldl {entry : Value × Value}
    (mem : entry ∈ pairs.foldl (fun entries pair => insert pair.1 pair.2 entries) entries) :
    entry ∈ entries ∨ entry ∈ pairs := by
  induction pairs generalizing entries with
  | nil => exact .inl mem
  | cons pair rest ih =>
    rcases ih mem with mem | mem
    · rcases mem_insert mem with rfl | mem
      · exact .inr List.mem_cons_self
      · exact .inl mem
    · exact .inr (List.mem_cons_of_mem pair mem)

theorem mem_of_mem_ofPairs {entry : Value × Value} (mem : entry ∈ ofPairs pairs) : entry ∈ pairs :=
  (mem_of_mem_foldl mem).resolve_left List.not_mem_nil

end Entries

end DialogueEngine
