import DialogueEngine.NameTable
import DialogueEngine.Value.Order

/-!
# Arguments of components

A component is called with arguments under distinct names. The arguments have no order of their own,
and nothing may rely on the one in which they are met; what lists them sorts them by name.
-/

namespace DialogueEngine

/-- The named arguments that a component is called with. -/
structure ComponentArgs where
  /-- The arguments in the order in which they happen to be met. -/
  bindings : List (String × Value)
  distinct : (bindings.map Prod.fst).Nodup
deriving DecidableEq

namespace ComponentArgs

/-! ## Sorting -/

/-- Puts a binding in front of the first one whose name is not less. -/
def place (binding : String × Value) : List (String × Value) → List (String × Value)
  | [] => [binding]
  | first :: rest =>
      if first.1 < binding.1 then first :: place binding rest else binding :: first :: rest

def sortByName (bindings : List (String × Value)) : List (String × Value) := bindings.foldr place []

theorem place_perm (binding : String × Value) (bindings : List (String × Value)) :
    (place binding bindings).Perm (binding :: bindings) := by
  induction bindings with
  | nil => exact .refl _
  | cons first rest ih =>
    rw [place]
    split
    · exact (ih.cons first).trans (.swap binding first rest)
    · exact .refl _

theorem sortByName_perm (bindings : List (String × Value)) :
    (sortByName bindings).Perm bindings := by
  induction bindings with
  | nil => exact .refl _
  | cons binding rest ih => exact (place_perm binding _).trans (ih.cons binding)

theorem ascending_place {binding : String × Value} {bindings : List (String × Value)}
    (fresh : binding.1 ∉ bindings.map Prod.fst) (ascending : NameTable.Ascending bindings) :
    NameTable.Ascending (place binding bindings) := by
  induction bindings with
  | nil => exact List.pairwise_singleton _ _
  | cons first rest ih =>
    rw [List.map_cons, List.mem_cons, not_or] at fresh
    obtain ⟨above, others⟩ := List.pairwise_cons.1 ascending
    rw [place]
    split
    · next less =>
      refine List.pairwise_cons.2 ⟨fun entry mem => ?_, ih fresh.2 others⟩
      rcases List.mem_cons.1 ((place_perm binding rest).mem_iff.1 mem) with rfl | mem
      · exact less
      · exact above entry mem
    · next notLess =>
      have first_above : binding.1 < first.1 :=
        Std.lt_of_le_of_ne (Std.not_lt.1 notLess) fresh.1
      refine List.pairwise_cons.2 ⟨fun entry mem => ?_, ascending⟩
      rcases List.mem_cons.1 mem with rfl | mem
      · exact first_above
      · exact String.lt_trans first_above (above entry mem)

theorem ascending_sortByName {bindings : List (String × Value)}
    (distinct : (bindings.map Prod.fst).Nodup) : NameTable.Ascending (sortByName bindings) := by
  induction bindings with
  | nil => exact List.Pairwise.nil
  | cons binding rest ih =>
    obtain ⟨fresh, others⟩ := List.nodup_cons.1 distinct
    refine ascending_place ?_ (ih others)
    intro mem
    exact fresh (((sortByName_perm rest).map Prod.fst).mem_iff.1 mem)

/-! ## Arguments -/

def empty : ComponentArgs := ⟨[], List.Pairwise.nil⟩

instance : EmptyCollection ComponentArgs := ⟨empty⟩

instance : Inhabited ComponentArgs := ⟨empty⟩

/-- Binds a name, in place of an earlier binding. -/
def insert (args : ComponentArgs) (name : String) (value : Value) : ComponentArgs where
  bindings := (name, value) :: args.bindings.filter fun binding => binding.1 ≠ name
  distinct := by
    refine List.nodup_cons.2 ⟨fun mem => ?_, args.distinct.sublist (List.filter_sublist.map _)⟩
    obtain ⟨binding, kept, same⟩ := List.mem_map.1 mem
    simp [same] at kept

def find? (args : ComponentArgs) (name : String) : Option Value :=
  NameTable.lookup name args.bindings

def size (args : ComponentArgs) : Nat := args.bindings.length

/-- The arguments that a table holds. -/
def ofTable (table : NameTable Value) : ComponentArgs :=
  ⟨table.entries, List.pairwise_map.2 (table.ascending.imp Std.ne_of_lt)⟩

/-- The arguments of a list of bindings, in which the last binding of a name counts. -/
def ofList (bindings : List (String × Value)) : ComponentArgs := ofTable (.ofList bindings)

/-- The arguments as a list, in ascending order of their names. -/
def entries (args : ComponentArgs) : List (String × Value) := sortByName args.bindings

theorem mem_entries {args : ComponentArgs} {entry : String × Value} :
    entry ∈ args.entries ↔ entry ∈ args.bindings := (sortByName_perm args.bindings).mem_iff

/-- The arguments as a table. -/
def table (args : ComponentArgs) : NameTable Value :=
  ⟨args.entries, ascending_sortByName args.distinct⟩

end ComponentArgs

end DialogueEngine
