import DialogueEngine.Value.Basic

/-!
# The order of values

A total order on all values, by kind and within a kind by content. It decides equality and fixes
where a key stands among the entries of a map. Floats are ordered and told apart by their bits.
-/

namespace DialogueEngine

namespace Value

/-- The place of a value's kind among the kinds. -/
def rank : Value → Nat
  | nil => 0
  | bool _ => 1
  | int _ => 2
  | float _ => 3
  | string _ => 4
  | list _ => 5
  | map _ => 6
  | hostObject _ => 7

mutual

/-- Lists are compared item by item before their lengths, maps by their lengths before their
entries. -/
def order : Value → Value → Ordering
  | nil, nil => .eq
  | bool a, bool b => compare a.toNat b.toNat
  | int a, int b => compare a.toInt b.toInt
  | float a, float b => compare a.totalKey b.totalKey
  | string a, string b => compare a b
  | list as, list bs => orderItems as bs
  | map as, map bs => (compare as.length bs.length).then (orderEntries as bs)
  | hostObject a, hostObject b => compare a b
  | a, b => compare a.rank b.rank

def orderItems : List Value → List Value → Ordering
  | [], [] => .eq
  | [], _ :: _ => .lt
  | _ :: _, [] => .gt
  | a :: as, b :: bs => (order a b).then (orderItems as bs)

def orderEntries : List (Value × Value) → List (Value × Value) → Ordering
  | [], [] => .eq
  | [], _ :: _ => .lt
  | _ :: _, [] => .gt
  | (k, a) :: as, (l, b) :: bs => ((order k l).then (order a b)).then (orderEntries as bs)

end

mutual

@[simp]
theorem order_self : ∀ a : Value, order a a = .eq
  | nil | bool _ | int _ | float _ | string _ | hostObject _ => by simp [order]
  | list as => by simp [order, orderItems_self as]
  | map as => by simp [order, orderEntries_self as]

@[simp]
theorem orderItems_self : ∀ as : List Value, orderItems as as = .eq
  | [] => rfl
  | a :: as => by simp [orderItems, order_self a, orderItems_self as]

@[simp]
theorem orderEntries_self : ∀ as : List (Value × Value), orderEntries as as = .eq
  | [] => rfl
  | (k, a) :: as => by
    simp [orderEntries, order_self k, order_self a, orderEntries_self as]

end

mutual

theorem eq_of_order_eq : ∀ {a b : Value}, order a b = .eq → a = b
  | a, b, h => by
    cases a <;> cases b <;>
      simp [order, rank, Ordering.then_eq_eq, Int64.toInt_inj] at h ⊢
    · rename_i a b
      cases a <;> cases b <;> simp at h ⊢
    · exact h
    · exact Double.totalKey_injective h
    · exact h
    · exact eq_of_orderItems_eq h
    · exact eq_of_orderEntries_eq h.2
    · exact h

theorem eq_of_orderItems_eq : ∀ {as bs : List Value}, orderItems as bs = .eq → as = bs
  | [], [], _ => rfl
  | [], _ :: _, h => by simp [orderItems] at h
  | _ :: _, [], h => by simp [orderItems] at h
  | a :: as, b :: bs, h => by
    simp only [orderItems, Ordering.then_eq_eq] at h
    rw [eq_of_order_eq h.1, eq_of_orderItems_eq h.2]

theorem eq_of_orderEntries_eq :
    ∀ {as bs : List (Value × Value)}, orderEntries as bs = .eq → as = bs
  | [], [], _ => rfl
  | [], _ :: _, h => by simp [orderEntries] at h
  | _ :: _, [], h => by simp [orderEntries] at h
  | (k, a) :: as, (l, b) :: bs, h => by
    simp only [orderEntries, Ordering.then_eq_eq] at h
    rw [eq_of_order_eq h.1.1, eq_of_order_eq h.1.2, eq_of_orderEntries_eq h.2]

end

@[simp]
theorem order_eq_iff {a b : Value} : order a b = .eq ↔ a = b :=
  ⟨eq_of_order_eq, fun h => h ▸ order_self a⟩

instance : DecidableEq Value := fun _ _ => decidable_of_iff _ order_eq_iff

end Value

end DialogueEngine
