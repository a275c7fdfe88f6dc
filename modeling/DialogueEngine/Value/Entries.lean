import DialogueEngine.Value.Order

/-!
# Map entries

Operations on the entries of a map. They keep the entries in strictly ascending order of the keys,
so the entries depend on what is bound and not on the order of the insertions.
-/

namespace DialogueEngine

abbrev Entries := List (Value × Value)

namespace Entries

def Ascending (entries : Entries) : Prop :=
  entries.Pairwise fun a b => a.1.order b.1 = .lt

/-- Binds a key, in place of an earlier binding. -/
def insert (key value : Value) : Entries → Entries
  | [] => [(key, value)]
  | (k, v) :: rest =>
      match key.order k with
      | .lt => (key, value) :: (k, v) :: rest
      | .eq => (key, value) :: rest
      | .gt => (k, v) :: insert key value rest

def erase (key : Value) (entries : Entries) : Entries :=
  entries.filter fun entry => entry.1 ≠ key

def find? (key : Value) : Entries → Option Value
  | [] => none
  | (k, v) :: rest => if k = key then some v else find? key rest

def contains (key : Value) (entries : Entries) : Bool := (find? key entries).isSome

/-- The entries of a list of bindings, in which the last binding of a key counts. -/
def ofPairs (pairs : List (Value × Value)) : Entries :=
  pairs.foldl (fun entries pair => insert pair.1 pair.2 entries) []

@[simp]
theorem find?_nil (key : Value) : find? key [] = none := rfl

theorem find?_insert (key value other : Value) (entries : Entries) :
    find? other (insert key value entries) =
      if key = other then some value else find? other entries := by
  induction entries with
  | nil => simp [insert, find?]
  | cons entry rest ih =>
    obtain ⟨k, v⟩ := entry
    rw [insert]
    split
    · simp [find?]
    · next h =>
      obtain rfl := Value.order_eq_iff.1 h
      by_cases hk : key = other <;> simp [find?, hk]
    · next h =>
      by_cases hk : k = other
      · subst hk
        have : key ≠ k := fun hkey => by simp [hkey] at h
        simp [find?, this]
      · simp [find?, hk, ih]

end Entries

end DialogueEngine
