import DialogueEngine.Proofs.Value.Equality
import Mathlib.Data.List.Forall2

/-!
# Equality of programs

When two programs are equal. Operands and instructions are compared part by part; arguments are
equal if there are as many and each name is bound to equal values, in whatever order they are met. A
program in which no map binds a key twice is equal to its canonical form.
-/

namespace DialogueEngine

/-- No map in the operand binds a key twice. -/
def Operand.Keyed : Operand → Prop :=
  Throughout fun entries => entries.Pairwise fun a b => ¬ a.1.beq b.1

def Instruction.Keyed : Instruction → Prop :=
  Throughout fun entries => entries.Pairwise fun a b => ¬ a.1.beq b.1

/-- No map in the program binds a key twice. -/
def Program.Keyed : Program → Prop :=
  Throughout fun entries => entries.Pairwise fun a b => ¬ a.1.beq b.1

/-! ## Equality -/

mutual

def Operand.beq : Operand → Operand → Bool
  | .literal value, .literal other => value.beq other
  | .call function arguments, .call other others =>
      function = other && beqArguments arguments others
  | _, _ => false

def Operand.beqArguments : List Operand → List Operand → Bool
  | [], [] => true
  | argument :: rest, other :: others => beq argument other && beqArguments rest others
  | _, _ => false

end

/-- There are as many arguments, and each name has an equal value among the other ones. -/
def ComponentArgs.beq (args others : ComponentArgs) : Bool :=
  args.size = others.size && args.bindings.all fun binding =>
    match others.find? binding.1 with
    | some value => binding.2.beq value
    | none => false

namespace Instruction

/-- Instructions of one kind are compared field by field. -/
def beq : Instruction → Instruction → Bool
  | setStatic name value embedded => fun
    | setStatic name' value' embedded' =>
        name = name' && value.beq value' && embedded = embedded'
    | _ => false
  | setReactive name value embedded => fun
    | setReactive name' value' embedded' =>
        name = name' && value.beq value' && embedded = embedded'
    | _ => false
  | goto target => fun
    | goto target' => target = target'
    | _ => false
  | condGoto target condition embedded => fun
    | condGoto target' condition' embedded' =>
        target = target' && condition.beq condition' && embedded = embedded'
    | _ => false
  | call target => fun
    | call target' => target = target'
    | _ => false
  | ret => fun
    | ret => true
    | _ => false
  | callComponent name args => fun
    | callComponent name' args' => name = name' && args.beq args'
    | _ => false

end Instruction

/-- The instructions are equal one by one. -/
def Program.beq : Program → Program → Bool
  | [], [] => true
  | instruction :: rest, other :: others => instruction.beq other && Program.beq rest others
  | _, _ => false

theorem Program.beq_iff_forall₂ {program other : Program} :
    program.beq other ↔ List.Forall₂ (fun a b => a.beq b) program other := by
  induction program generalizing other with
  | nil => cases other <;> simp [beq]
  | cons instruction rest ih => cases other <;> simp [beq, ih]

/-! ## Arguments -/

namespace NameTable

variable {α : Type}

theorem lookup_eq_none_iff {name : String} {bindings : List (String × α)} :
    lookup name bindings = none ↔ name ∉ bindings.map Prod.fst := by
  induction bindings with
  | nil => simp [lookup]
  | cons first rest ih =>
    by_cases same : first.1 = name
    · simp [lookup, same]
    · simp [lookup, same, Ne.symm same, ih]

theorem lookup_eq_some_iff {name : String} {content : α} {bindings : List (String × α)}
    (distinct : (bindings.map Prod.fst).Nodup) :
    lookup name bindings = some content ↔ (name, content) ∈ bindings := by
  induction bindings with
  | nil => simp [lookup]
  | cons first rest ih =>
    obtain ⟨fresh, others⟩ := List.nodup_cons.mp distinct
    by_cases same : first.1 = name
    · -- behind its own binding the name is not bound again
      have unbound : (name, content) ∉ rest := fun mem =>
        fresh (same ▸ List.mem_map_of_mem (f := Prod.fst) mem)
      simp [lookup, same, unbound, Prod.ext_iff, eq_comm]
    · simp [lookup, same, ih others, Prod.ext_iff, Ne.symm same]

/-- Where the order of the bindings does not matter, neither does it to those who look them up. -/
theorem lookup_eq_of_perm {bindings others : List (String × α)}
    (distinct : (bindings.map Prod.fst).Nodup) (perm : bindings.Perm others) (name : String) :
    lookup name bindings = lookup name others := by
  have distinct' := (perm.map Prod.fst).nodup_iff.mp distinct
  ext content
  rw [lookup_eq_some_iff distinct, lookup_eq_some_iff distinct', perm.mem_iff]

/-- A name below all others is not bound among them. -/
theorem lookup_eq_none_of_lt {name : String} {bindings : List (String × α)}
    (above : ∀ binding ∈ bindings, name < binding.1) : lookup name bindings = none := by
  rw [lookup_eq_none_iff]
  intro bound
  obtain ⟨binding, mem, same⟩ := List.mem_map.mp bound
  exact String.lt_irrefl name (same ▸ above binding mem)

/-- Lists in ascending order in which the same names are bound alike list them side by side. -/
theorem forall₂_of_lookup {related : α → α → Prop} {bindings others : List (String × α)}
    (ascending : Ascending bindings) (ascending' : Ascending others)
    (same : ∀ name, Option.Rel related (lookup name bindings) (lookup name others)) :
    List.Forall₂ (fun a b => a.1 = b.1 ∧ related a.2 b.2) bindings others := by
  induction bindings generalizing others with
  | nil =>
    cases others with
    | nil => exact .nil
    | cons other others =>
      have first := same other.1
      simp [lookup] at first
  | cons binding rest ih =>
    obtain ⟨above, ascending⟩ := List.pairwise_cons.mp ascending
    cases others with
    | nil =>
      have first := same binding.1
      simp [lookup] at first
    | cons other others =>
      obtain ⟨above', ascending'⟩ := List.pairwise_cons.mp ascending'
      -- the lesser of the two first names would be bound on one side only
      have names : binding.1 = other.1 := by
        rcases Std.lt_trichotomy binding.1 other.1 with less | names | greater
        · have unbound : lookup binding.1 (other :: others) = none :=
            lookup_eq_none_of_lt (List.forall_mem_cons.mpr
              ⟨less, fun entry mem => String.lt_trans less (above' entry mem)⟩)
          have bound := same binding.1
          rw [unbound, lookup, if_pos rfl] at bound
          cases bound
        · exact names
        · have unbound : lookup other.1 (binding :: rest) = none :=
            lookup_eq_none_of_lt (List.forall_mem_cons.mpr
              ⟨greater, fun entry mem => String.lt_trans greater (above entry mem)⟩)
          have bound := same other.1
          rw [unbound, lookup, if_pos rfl] at bound
          cases bound
      have first := same binding.1
      rw [lookup, lookup, if_pos rfl, if_pos names.symm, Option.rel_some_some] at first
      refine .cons ⟨names, first⟩ (ih ascending ascending' fun name => ?_)
      by_cases here : binding.1 = name
      · rw [← here, lookup_eq_none_of_lt above, names, lookup_eq_none_of_lt above']
        exact .none
      · have later := same name
        rwa [lookup, lookup, if_neg here, if_neg (names ▸ here)] at later

end NameTable

namespace ComponentArgs

variable {args others : ComponentArgs}

theorem find?_eq_some_iff {name : String} {value : Value} :
    args.find? name = some value ↔ (name, value) ∈ args.bindings :=
  NameTable.lookup_eq_some_iff args.distinct

/-- Arguments are found among those that are sorted. -/
theorem lookup_entries (args : ComponentArgs) (name : String) :
    NameTable.lookup name args.entries = args.find? name :=
  (NameTable.lookup_eq_of_perm args.distinct (sortByName_perm args.bindings).symm name).symm

theorem mem_names_iff {name : String} :
    name ∈ args.bindings.map Prod.fst ↔ (args.find? name).isSome := by
  rw [find?, Option.isSome_iff_ne_none, Ne, NameTable.lookup_eq_none_iff, not_not]

/-- Arguments are equal if each name is bound to equal values, or on neither side. -/
theorem beq_iff_find? :
    args.beq others ↔
      ∀ name, Option.Rel (fun a b => a.beq b) (args.find? name) (others.find? name) := by
  rw [beq, size, size, Bool.and_eq_true, decide_eq_true_eq, List.all_eq_true]
  constructor
  · rintro ⟨count, within⟩ name
    -- there are as many names, and those of one side are among those of the other one
    have names : (args.bindings.map Prod.fst).Perm (others.bindings.map Prod.fst) := by
      refine (List.subperm_of_subset args.distinct ?_).perm_of_length_le (by simp [count])
      intro name listed
      obtain ⟨binding, mem, rfl⟩ := List.mem_map.mp listed
      have bound := within binding mem
      cases found : others.find? binding.1 with
      | none => simp [found] at bound
      | some value => exact mem_names_iff.mpr (by rw [found]; rfl)
    cases found : args.find? name with
    | some value =>
      have bound := within (name, value) (find?_eq_some_iff.mp found)
      cases found' : others.find? name with
      | none => simp [found'] at bound
      | some other => exact .some (by simpa [found'] using bound)
    | none =>
      rw [find?, NameTable.lookup_eq_none_iff, names.mem_iff] at found
      rw [find?, NameTable.lookup_eq_none_iff.mpr found]
      exact .none
  · intro same
    have names : (args.bindings.map Prod.fst).Perm (others.bindings.map Prod.fst) := by
      refine (List.perm_ext_iff_of_nodup args.distinct others.distinct).mpr fun name => ?_
      have alike := same name
      rw [mem_names_iff, mem_names_iff]
      cases found : args.find? name <;> cases found' : others.find? name <;>
        simp [found, found'] at alike ⊢
    refine ⟨by simpa using names.length_eq, ?_⟩
    intro binding mem
    have alike := same binding.1
    rw [find?_eq_some_iff.mpr mem] at alike
    cases found : others.find? binding.1 with
    | none => simp [found] at alike
    | some value => simpa [found] using alike

/-- Equal arguments are sorted alike. -/
theorem forall₂_entries_of_beq (same : args.beq others) :
    List.Forall₂ (fun a b => a.1 = b.1 ∧ a.2.beq b.2) args.entries others.entries := by
  have alike (name : String) : Option.Rel (fun a b => a.beq b)
      (NameTable.lookup name args.entries) (NameTable.lookup name others.entries) := by
    rw [lookup_entries, lookup_entries]
    exact beq_iff_find?.mp same name
  exact NameTable.forall₂_of_lookup args.table.ascending others.table.ascending alike

end ComponentArgs

/-! ## Canonical form -/

mutual

/-- The canonical form of a value is in order. -/
theorem Value.ordered_canonical : ∀ value : Value, value.canonical.Ordered
  | .nil | .bool _ | .int _ | .float _ | .string _ | .hostObject _ => by
    intro entries inner
    cases inner
  | .list items => Value.throughout_list (Value.ordered_canonicalItems items)
  | .map entries => Value.ordered_ofPairs (Value.ordered_canonicalEntries entries)

theorem Value.ordered_canonicalItems : ∀ items : List Value,
    ∀ item ∈ Value.canonicalItems items, item.Ordered
  | [] => List.forall_mem_nil _
  | value :: rest => List.forall_mem_cons.mpr
      ⟨Value.ordered_canonical value, Value.ordered_canonicalItems rest⟩

theorem Value.ordered_canonicalEntries : ∀ entries : List (Value × Value),
    ∀ entry ∈ Value.canonicalEntries entries, entry.1.Ordered ∧ entry.2.Ordered
  | [] => List.forall_mem_nil _
  | (key, content) :: rest => List.forall_mem_cons.mpr
      ⟨⟨Value.ordered_canonical key, Value.ordered_canonical content⟩,
        Value.ordered_canonicalEntries rest⟩

end

theorem Value.Keyed.beq_canonical {value : Value} (keyed : value.Keyed) :
    value.beq value.canonical := by
  have ordered := value.ordered_canonical
  rw [keyed.beq_iff ordered.keyed, Value.canonical_of_ordered ordered]

mutual

theorem Operand.Keyed.beq_canonical : ∀ {operand : Operand}, operand.Keyed →
    operand.beq operand.canonical
  | .literal value, keyed => by
    rw [Operand.canonical, Operand.beq]
    exact Value.Keyed.beq_canonical keyed.literal
  | .call function arguments, keyed => by
    rw [Operand.canonical, Operand.beq, decide_eq_true rfl, Bool.true_and]
    exact Operand.beqArguments_canonicalList keyed.argument

theorem Operand.beqArguments_canonicalList : ∀ {arguments : List Operand},
    (∀ argument ∈ arguments, argument.Keyed) →
      Operand.beqArguments arguments (Operand.canonicalList arguments)
  | [], _ => rfl
  | argument :: rest, keyed => by
    obtain ⟨first, others⟩ := List.forall_mem_cons.mp keyed
    rw [Operand.canonicalList, Operand.beqArguments, Bool.and_eq_true]
    exact ⟨Operand.Keyed.beq_canonical first, Operand.beqArguments_canonicalList others⟩

end

theorem ComponentArgs.find?_canonical (args : ComponentArgs) (name : String) :
    args.canonical.find? name = (args.find? name).map Value.canonical := by
  rw [← args.lookup_entries name]
  exact NameTable.find?_map Value.canonical args.table name

theorem ComponentArgs.beq_canonical {args : ComponentArgs}
    (keyed : ∀ binding ∈ args.bindings, binding.2.Keyed) : args.beq args.canonical := by
  refine beq_iff_find?.mpr fun name => ?_
  rw [find?_canonical]
  cases found : args.find? name with
  | none => exact .none
  | some value => exact .some (keyed _ (find?_eq_some_iff.mp found)).beq_canonical

theorem Instruction.Keyed.beq_canonical {instruction : Instruction} (keyed : instruction.Keyed) :
    instruction.beq instruction.canonical := by
  cases instruction with
  | setStatic | setReactive | condGoto =>
    have same := Operand.Keyed.beq_canonical (keyed.operand rfl)
    simp [canonical, beq, same]
  | goto | call | ret => simp [canonical, beq]
  | callComponent =>
    have same := ComponentArgs.beq_canonical keyed.argument
    simp [canonical, beq, same]

/-- A program as it is held, with no key bound twice, is equal to its canonical form. -/
theorem Program.Keyed.beq_canonical {program : Program} (keyed : program.Keyed) :
    program.beq (canonical program) := by
  refine beq_iff_forall₂.mpr (List.forall₂_map_right_iff.mpr (List.forall₂_same.mpr ?_))
  intro instruction mem
  exact Instruction.Keyed.beq_canonical (keyed.instruction instruction mem)

end DialogueEngine
