import DialogueEngine.Prelude

/-!
# Engines with the prelude

What an engine has registered once the prelude has been installed: every function of the prelude
under its name, and nothing else but what was there before.
-/

namespace DialogueEngine.Engine

variable {σ : Type} {e : Engine σ}

/-- The names of the prelude, those of all operators among them, are bound to its functions. -/
def BindsPrelude (e : Engine σ) : Prop :=
  ∀ function ∈ Prelude.all, e.functions.find? function.1 = some function.2

/-- Whatever function is registered is one of the prelude, under whatever name. -/
def OnlyPrelude (e : Engine σ) : Prop :=
  ∀ name function, e.functions.find? name = some function →
    ∃ original, (original, function) ∈ Prelude.all

theorem find?_registerFunctions_of_notMem {functions : List (String × HostFunction σ)}
    {name : String} (unnamed : name ∉ functions.map Prod.fst) :
    (e.registerFunctions functions).functions.find? name = e.functions.find? name := by
  induction functions generalizing e with
  | nil => rfl
  | cons function rest ih =>
    rw [List.map_cons, List.mem_cons, not_or] at unnamed
    rw [registerFunctions, List.foldl_cons]
    refine (ih unnamed.2).trans ?_
    rw [registerFunction, NameTable.find?_insert, if_neg (Ne.symm unnamed.1)]

theorem find?_registerFunctions {functions : List (String × HostFunction σ)}
    (distinct : (functions.map Prod.fst).Nodup) :
    ∀ function ∈ functions,
      (e.registerFunctions functions).functions.find? function.1 = some function.2 := by
  induction functions generalizing e with
  | nil => nofun
  | cons first rest ih =>
    obtain ⟨unnamed, distinct⟩ := List.nodup_cons.mp distinct
    intro function mem
    rcases List.mem_cons.mp mem with rfl | mem
    · have kept := find?_registerFunctions_of_notMem
        (e := e.registerFunction function.1 function.2) unnamed
      rw [registerFunctions, List.foldl_cons]
      refine kept.trans ?_
      rw [registerFunction, NameTable.find?_insert, if_pos rfl]
    · exact ih distinct function mem

theorem mem_of_find?_registerFunctions {functions : List (String × HostFunction σ)}
    {name : String} {function : HostFunction σ}
    (found : (e.registerFunctions functions).functions.find? name = some function) :
    (name, function) ∈ functions ∨ e.functions.find? name = some function := by
  induction functions generalizing e with
  | nil => exact .inr found
  | cons first rest ih =>
    rw [registerFunctions, List.foldl_cons] at found
    rcases ih found with mem | earlier
    · exact .inl (List.mem_cons_of_mem first mem)
    · rw [registerFunction, NameTable.find?_insert] at earlier
      split at earlier
      · next same =>
        cases earlier
        subst same
        exact .inl List.mem_cons_self
      · exact .inr earlier

theorem bindsPrelude_withPrelude (e : Engine σ) : e.withPrelude.BindsPrelude :=
  find?_registerFunctions (by simp [Prelude.all, Prelude.math, Prelude.bitwise, Prelude.condition,
    Prelude.primitive])

theorem onlyPrelude_withPrelude (alone : e.functions = .empty) : e.withPrelude.OnlyPrelude := by
  intro name function found
  rcases mem_of_find?_registerFunctions found with mem | earlier
  · exact ⟨name, mem⟩
  · rw [alone] at earlier
    cases earlier

theorem BindsPrelude.find? {name : String} {function : HostFunction σ} (binds : e.BindsPrelude)
    (found : Prelude.all.lookup name = some function) : e.functions.find? name = some function := by
  obtain ⟨before, others, split, -⟩ := List.lookup_eq_some_iff.mp found
  have mem : (name, function) ∈ Prelude.all := by
    rw [split]
    exact List.mem_append_right before List.mem_cons_self
  exact binds _ mem

end DialogueEngine.Engine
