/-!
# Tables by name

A table binds names to contents. Its entries stand in strictly ascending order of the names, so
two tables with the same bindings are equal and a listing is sorted.
-/

namespace DialogueEngine

variable {α β : Type}

namespace NameTable

/-- Binds a name in a list of entries, in place of an earlier binding. -/
def insertEntry (name : String) (content : α) : List (String × α) → List (String × α)
  | [] => [(name, content)]
  | (n, c) :: rest =>
      if name < n then (name, content) :: (n, c) :: rest
      else if name = n then (name, content) :: rest
      else (n, c) :: insertEntry name content rest

def lookup (name : String) : List (String × α) → Option α
  | [] => none
  | (n, c) :: rest => if n = name then some c else lookup name rest

abbrev Ascending (entries : List (String × α)) : Prop :=
  entries.Pairwise fun a b => a.1 < b.1

theorem mem_insertEntry {name : String} {content : α} {entries : List (String × α)}
    {entry : String × α} (h : entry ∈ insertEntry name content entries) :
    entry = (name, content) ∨ entry ∈ entries := by
  induction entries with
  | nil => simpa [insertEntry] using h
  | cons head rest ih =>
    rw [insertEntry] at h
    split at h
    · simpa using h
    · split at h
      · simp only [List.mem_cons] at h ⊢
        exact h.imp_right .inr
      · simp only [List.mem_cons] at h ⊢
        rcases h with h | h
        · exact .inr (.inl h)
        · exact (ih h).imp_right .inr

theorem ascending_insertEntry (name : String) (content : α) {entries : List (String × α)}
    (h : Ascending entries) : Ascending (insertEntry name content entries) := by
  induction entries with
  | nil => simp [Ascending, insertEntry]
  | cons head rest ih =>
    obtain ⟨n, c⟩ := head
    rw [Ascending, List.pairwise_cons] at h
    rw [insertEntry]
    split
    · next hlt =>
      refine List.pairwise_cons.2 ⟨fun entry mem => ?_, List.pairwise_cons.2 h⟩
      rcases List.mem_cons.1 mem with rfl | mem
      · exact hlt
      · exact String.lt_trans hlt (h.1 entry mem)
    · split
      · next heq => exact List.pairwise_cons.2 ⟨fun entry mem => heq ▸ h.1 entry mem, h.2⟩
      · next hlt hne =>
        refine List.pairwise_cons.2 ⟨fun entry mem => ?_, ih h.2⟩
        rcases mem_insertEntry mem with rfl | mem
        · exact Std.lt_of_le_of_ne (Std.not_lt.1 hlt) (Ne.symm hne)
        · exact h.1 entry mem

end NameTable

structure NameTable (α : Type) where
  entries : List (String × α)
  ascending : NameTable.Ascending entries

namespace NameTable

instance [DecidableEq α] : DecidableEq (NameTable α) := fun a b =>
  decidable_of_iff (a.entries = b.entries) ⟨fun h => by cases a; cases b; congr, congrArg _⟩

def empty : NameTable α := ⟨[], List.Pairwise.nil⟩

instance : EmptyCollection (NameTable α) := ⟨empty⟩

instance : Inhabited (NameTable α) := ⟨empty⟩

def insert (table : NameTable α) (name : String) (content : α) : NameTable α :=
  ⟨insertEntry name content table.entries, ascending_insertEntry name content table.ascending⟩

def find? (table : NameTable α) (name : String) : Option α := lookup name table.entries

def contains (table : NameTable α) (name : String) : Bool := (table.find? name).isSome

def names (table : NameTable α) : List String := table.entries.map Prod.fst

def size (table : NameTable α) : Nat := table.entries.length

def isEmpty (table : NameTable α) : Bool := table.entries.isEmpty

/-- The table of a list of bindings, in which the last binding of a name counts. -/
def ofList (bindings : List (String × α)) : NameTable α :=
  bindings.foldl (fun table binding => table.insert binding.1 binding.2) empty

/-- Applies a function to every content. -/
def map (f : α → β) (table : NameTable α) : NameTable β :=
  ⟨table.entries.map fun entry => (entry.1, f entry.2), by
    simpa [Ascending, List.pairwise_map] using table.ascending⟩

@[simp]
theorem find?_empty (name : String) : (empty : NameTable α).find? name = none := rfl

theorem lookup_insertEntry (name other : String) (content : α)
    (entries : List (String × α)) :
    lookup other (insertEntry name content entries) =
      if name = other then some content else lookup other entries := by
  induction entries with
  | nil => simp [insertEntry, lookup]
  | cons head rest ih =>
    obtain ⟨n, c⟩ := head
    rw [insertEntry]
    split
    · simp [lookup]
    · split
      · next h =>
        subst h
        by_cases hn : name = other <;> simp [lookup, hn]
      · next h =>
        by_cases hn : n = other
        · subst hn
          simp [lookup, h]
        · simp [lookup, hn, ih]

@[simp]
theorem find?_insert (table : NameTable α) (name other : String) (content : α) :
    (table.insert name content).find? other =
      if name = other then some content else table.find? other :=
  lookup_insertEntry name other content table.entries

@[simp]
theorem find?_map (f : α → β) (table : NameTable α) (name : String) :
    (table.map f).find? name = (table.find? name).map f := by
  obtain ⟨entries, ascending⟩ := table
  simp only [find?, map]
  clear ascending
  induction entries with
  | nil => rfl
  | cons head rest ih => by_cases h : head.1 = name <;> simp [lookup, h, ih]

theorem contains_iff_mem_names (table : NameTable α) (name : String) :
    table.contains name ↔ name ∈ table.names := by
  obtain ⟨entries, ascending⟩ := table
  simp only [contains, find?, names]
  clear ascending
  induction entries with
  | nil => simp [lookup]
  | cons head rest ih =>
    rw [lookup, List.map_cons, List.mem_cons, ← ih]
    by_cases same : head.1 = name
    · simp [same]
    · simp [same, Ne.symm same]

theorem map_fst_insertEntry_congr (name : String) (content : α) (replaced : β)
    {entries : List (String × α)} {others : List (String × β)}
    (same : others.map Prod.fst = entries.map Prod.fst) :
    (insertEntry name replaced others).map Prod.fst =
      (insertEntry name content entries).map Prod.fst := by
  induction entries generalizing others with
  | nil =>
    rw [List.map_nil, List.map_eq_nil_iff] at same
    rw [same]
    rfl
  | cons head rest ih =>
    obtain ⟨n, c⟩ := head
    obtain ⟨⟨m, d⟩, tail, rfl, first, rest⟩ := List.map_eq_cons_iff.mp same
    cases first
    rw [insertEntry, insertEntry]
    by_cases before : name < n
    · simp only [if_pos before, List.map_cons, rest]
    · by_cases here : name = n
      · simp only [if_neg before, if_pos here, List.map_cons, rest]
      · simp only [if_neg before, if_neg here, List.map_cons, ih rest]

theorem names_insert_congr {table : NameTable α} {other : NameTable β}
    (same : other.names = table.names) (name : String) (content : α) (replaced : β) :
    (other.insert name replaced).names = (table.insert name content).names :=
  map_fst_insertEntry_congr name content replaced same

@[simp]
theorem names_map (f : α → β) (table : NameTable α) : (table.map f).names = table.names := by
  simp [names, map]

end NameTable

end DialogueEngine
