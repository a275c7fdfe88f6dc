import DialogueEngine.Proofs.Program.Occurrence
import DialogueEngine.Value.Entries

/-!
# Canonical values

Two lists of bindings make the same map when they are put in order. A canonical value lists the
entries of every map in order; what the operations on maps yield is its own canonical form. In a
canonical program the arguments of components are listed by name as well.
-/

namespace DialogueEngine

namespace Value

mutual

theorem order_swap : ∀ a b : Value, (order a b).swap = order b a
  | a, b => by
    cases a <;> cases b <;> simp only [order, rank]
    case list.list as bs => exact orderItems_swap as bs
    case map.map as bs =>
      rw [Ordering.swap_then, orderEntries_swap as bs, ← Std.OrientedCmp.eq_swap]
    all_goals first | rfl | exact Std.OrientedCmp.eq_swap.symm

theorem orderItems_swap : ∀ as bs : List Value, (orderItems as bs).swap = orderItems bs as
  | [], [] | [], _ :: _ | _ :: _, [] => rfl
  | a :: as, b :: bs => by
    rw [orderItems, orderItems, Ordering.swap_then, order_swap a b, orderItems_swap as bs]

theorem orderEntries_swap :
    ∀ as bs : List (Value × Value), (orderEntries as bs).swap = orderEntries bs as
  | [], [] | [], _ :: _ | _ :: _, [] => rfl
  | (k, a) :: as, (l, b) :: bs => by
    rw [orderEntries, orderEntries, Ordering.swap_then, Ordering.swap_then, order_swap k l,
      order_swap a b, orderEntries_swap as bs]

end

end Value

namespace Entries

variable {entries : Entries}

theorem insert_of_lt (key value : Value) (above : ∀ entry ∈ entries, entry.1.order key = .lt) :
    insert key value entries = entries ++ [(key, value)] := by
  induction entries with
  | nil => rfl
  | cons entry rest ih =>
    have greater : key.order entry.1 = .gt := by
      rw [← Value.order_swap, above entry List.mem_cons_self]
      rfl
    rw [insert, greater]
    simp only [List.cons_append]
    rw [ih fun other mem => above other (List.mem_cons_of_mem entry mem)]

theorem foldl_insert_of_ascending {done : Entries} (ascending : Ascending (done ++ entries)) :
    entries.foldl (fun entries pair => insert pair.1 pair.2 entries) done = done ++ entries := by
  induction entries generalizing done with
  | nil => exact (List.append_nil done).symm
  | cons entry rest ih =>
    obtain ⟨-, -, above⟩ := List.pairwise_append.mp ascending
    have last : insert entry.1 entry.2 done = done ++ [entry] :=
      insert_of_lt entry.1 entry.2 fun other mem => above other mem entry List.mem_cons_self
    rw [List.append_cons] at ascending ⊢
    rw [List.foldl_cons, last, ih ascending]

/-- Entries in ascending order are bound in that order. -/
theorem ofPairs_of_ascending (ascending : Ascending entries) : ofPairs entries = entries :=
  foldl_insert_of_ascending ascending

end Entries

namespace NameTable

variable {α : Type} {entries : List (String × α)}

theorem insertEntry_of_lt (name : String) (content : α)
    (above : ∀ entry ∈ entries, entry.1 < name) :
    insertEntry name content entries = entries ++ [(name, content)] := by
  induction entries with
  | nil => rfl
  | cons entry rest ih =>
    have less : entry.1 < name := above entry List.mem_cons_self
    have notLess : ¬ name < entry.1 := Std.not_lt.mpr (Std.le_of_lt less)
    have different : name ≠ entry.1 := (Std.ne_of_lt less).symm
    rw [insertEntry, if_neg notLess, if_neg different, List.cons_append,
      ih fun other mem => above other (List.mem_cons_of_mem entry mem)]

theorem entries_foldl_insert (table : NameTable α)
    (ascending : Ascending (table.entries ++ entries)) :
    (entries.foldl (fun table binding => table.insert binding.1 binding.2) table).entries =
      table.entries ++ entries := by
  induction entries generalizing table with
  | nil => exact (List.append_nil _).symm
  | cons entry rest ih =>
    obtain ⟨-, -, above⟩ := List.pairwise_append.mp ascending
    have last : (table.insert entry.1 entry.2).entries = table.entries ++ [entry] :=
      insertEntry_of_lt entry.1 entry.2 fun other mem => above other mem entry List.mem_cons_self
    rw [List.append_cons, ← last] at ascending ⊢
    exact ih _ ascending

theorem eq_of_entries_eq {a b : NameTable α} (same : a.entries = b.entries) : a = b := by
  cases a
  cases b
  cases same
  rfl

/-- A table is that of its own entries. -/
theorem ofList_entries (table : NameTable α) : ofList table.entries = table :=
  eq_of_entries_eq (entries_foldl_insert empty table.ascending)

end NameTable

namespace Value

mutual

/-- The value with the entries of every map in it put in order. -/
def canonical : Value → Value
  | nil => nil
  | bool b => bool b
  | int i => int i
  | float x => float x
  | string s => string s
  | list items => list (canonicalItems items)
  | map entries => map (Entries.ofPairs (canonicalEntries entries))
  | hostObject name => hostObject name

def canonicalItems : List Value → List Value
  | [] => []
  | value :: rest => canonical value :: canonicalItems rest

def canonicalEntries : List (Value × Value) → List (Value × Value)
  | [] => []
  | (key, value) :: rest => (canonical key, canonical value) :: canonicalEntries rest

end

/-- The entries of every map in the value stand in order. -/
def Ordered : Value → Prop := Throughout Entries.Ascending

mutual

theorem canonical_of_ordered : ∀ {value : Value}, value.Ordered → value.canonical = value
  | nil, _ | bool _, _ | int _, _ | float _, _ | string _, _ | hostObject _, _ => rfl
  | list items, ordered => by
    rw [canonical, canonicalItems_of_ordered (Throughout.item ordered)]
  | map entries, ordered => by
    rw [canonical, canonicalEntries_of_ordered (Throughout.entry ordered),
      Entries.ofPairs_of_ascending (ordered entries .self)]

theorem canonicalItems_of_ordered :
    ∀ {items : List Value}, (∀ item ∈ items, item.Ordered) → canonicalItems items = items
  | [], _ => rfl
  | value :: rest, ordered => by
    obtain ⟨first, others⟩ := List.forall_mem_cons.mp ordered
    rw [canonicalItems, canonical_of_ordered first, canonicalItems_of_ordered others]

theorem canonicalEntries_of_ordered :
    ∀ {entries : List (Value × Value)},
      (∀ entry ∈ entries, entry.1.Ordered ∧ entry.2.Ordered) → canonicalEntries entries = entries
  | [], _ => rfl
  | (key, value) :: rest, ordered => by
    obtain ⟨⟨first, second⟩, others⟩ := List.forall_mem_cons.mp ordered
    rw [canonicalEntries, canonical_of_ordered first, canonical_of_ordered second,
      canonicalEntries_of_ordered others]

end

end Value

namespace Operand

mutual

def canonical : Operand → Operand
  | literal value => literal value.canonical
  | call function arguments => call function (canonicalList arguments)

def canonicalList : List Operand → List Operand
  | [] => []
  | operand :: rest => canonical operand :: canonicalList rest

end

def Ordered : Operand → Prop := Throughout Entries.Ascending

mutual

theorem canonical_of_ordered : ∀ {operand : Operand}, operand.Ordered → operand.canonical = operand
  | literal value, ordered => by
    rw [canonical, Value.canonical_of_ordered (Throughout.literal ordered)]
  | call function arguments, ordered => by
    rw [canonical, canonicalList_of_ordered (Throughout.argument ordered)]

theorem canonicalList_of_ordered :
    ∀ {operands : List Operand}, (∀ operand ∈ operands, operand.Ordered) →
      canonicalList operands = operands
  | [], _ => rfl
  | operand :: rest, ordered => by
    obtain ⟨first, others⟩ := List.forall_mem_cons.mp ordered
    rw [canonicalList, canonical_of_ordered first, canonicalList_of_ordered others]

end

end Operand

theorem map_eq_self {α : Type} {f : α → α} {items : List α} (same : ∀ item ∈ items, f item = item) :
    items.map f = items :=
  (List.map_congr_left same).trans (List.map_id items)

namespace ComponentArgs

variable {args : ComponentArgs}

/-- Sorting leaves a list alone that is in order. -/
theorem sortByName_of_ascending {bindings : List (String × Value)}
    (ascending : NameTable.Ascending bindings) : sortByName bindings = bindings := by
  have names : (bindings.map Prod.fst).Nodup :=
    List.pairwise_map.mpr (ascending.imp Std.ne_of_lt)
  refine (sortByName_perm bindings).eq_of_pairwise (fun _ _ _ _ less greater => ?_)
    (ascending_sortByName names) ascending
  exact absurd (String.lt_trans less greater) (String.lt_irrefl _)

/-- The arguments listed by name, with their values in canonical form. -/
def canonical (args : ComponentArgs) : ComponentArgs := ofTable (args.table.map Value.canonical)

theorem canonical_of_ordered (ascending : NameTable.Ascending args.bindings)
    (ordered : ∀ entry ∈ args.bindings, entry.2.Ordered) : args.canonical = args := by
  obtain ⟨bindings, distinct⟩ := args
  have same : bindings.map (fun entry => (entry.1, entry.2.canonical)) = bindings := by
    apply map_eq_self
    intro entry mem
    rw [Value.canonical_of_ordered (ordered entry mem)]
  simp only [canonical, ofTable, table, entries, NameTable.map, sortByName_of_ascending ascending,
    same]

end ComponentArgs

namespace Instruction

def canonical : Instruction → Instruction
  | setStatic name value embedded => setStatic name value.canonical embedded
  | setReactive name value embedded => setReactive name value.canonical embedded
  | goto target => goto target
  | condGoto target condition embedded => condGoto target condition.canonical embedded
  | call target => call target
  | ret => ret
  | callComponent name args => callComponent name args.canonical

/-- The entries of every map in the instruction stand in order, and its arguments do too. -/
structure Ordered (instruction : Instruction) : Prop where
  maps : instruction.Throughout Entries.Ascending
  arguments : ∀ name args, instruction = callComponent name args →
    NameTable.Ascending args.bindings

theorem canonical_of_ordered {instruction : Instruction} (ordered : instruction.Ordered) :
    instruction.canonical = instruction := by
  cases instruction with
  | setStatic name operand | setReactive name operand | condGoto name operand =>
    rw [canonical, Operand.canonical_of_ordered (ordered.maps.operand rfl)]
  | goto | call | ret => rfl
  | callComponent name args =>
    rw [canonical, ComponentArgs.canonical_of_ordered (ordered.arguments name args rfl)
      ordered.maps.argument]

end Instruction

namespace Program

def canonical (program : Program) : Program := program.map Instruction.canonical

/-- The entries of every map in the program stand in order, and the arguments of components do
too. -/
structure Ordered (program : Program) : Prop where
  maps : Program.Throughout Entries.Ascending program
  arguments : ∀ name args, .callComponent name args ∈ program →
    NameTable.Ascending args.bindings

theorem canonical_of_ordered {program : Program} (ordered : Ordered program) :
    canonical program = program := by
  apply map_eq_self
  intro instruction mem
  refine Instruction.canonical_of_ordered ⟨ordered.maps.instruction instruction mem, ?_⟩
  rintro name args rfl
  exact ordered.arguments name args mem

end Program

end DialogueEngine
