import DialogueEngine.Proofs.Script.InTurn

/-!
# What evaluation can fail for

The evaluation of an expression fails for a value of a kind that does not fit, a wrong number of
arguments, a division by zero, or two numbers without an order. It never fails for anything else,
and does not say where.
-/

namespace DialogueEngine

/-- A failure that operators bring about. -/
inductive Failure.OfOperators : Failure → Prop where
  | typeMismatch (expected actual : Kind) : OfOperators ⟨.typeMismatch expected actual, none⟩
  | arityMismatch (expected : String) (actual : Nat) :
      OfOperators ⟨.arityMismatch expected actual, none⟩
  | divisionByZero : OfOperators ⟨.divisionByZero, none⟩
  | unordered {a b : Value} (numbers : a.isNumber ∧ b.isNumber)
      (incomparable : a.compare? b = none) :
      OfOperators ⟨.host ("cannot order " ++ a.literalText ++ " and " ++ b.literalText), none⟩

namespace Script

/-- The result is a failure only if operators have brought that about. -/
def Ordinary {α : Type} (result : Except Failure α) : Prop :=
  ∀ failure, result = .error failure → failure.OfOperators

namespace Ordinary

open Failure.OfOperators

variable {α β : Type}

theorem ok (a : α) : Ordinary (.ok a : Except Failure α) := by
  intro failure same
  cases same

theorem error {failure : Failure} (brought : failure.OfOperators) :
    Ordinary (.error failure : Except Failure α) := by
  rintro _ ⟨⟩
  exact brought

theorem bind {x : Except Failure α} {f : α → Except Failure β} (first : Ordinary x)
    (goesOn : ∀ a, Ordinary (f a)) : Ordinary (x >>= f) := by
  cases x with
  | ok a => exact goesOn a
  | error failure => exact error (first failure rfl)

theorem map {x : Except Failure α} (first : Ordinary x) (f : α → β) : Ordinary (x.map f) := by
  cases x with
  | ok a => exact ok _
  | error failure => exact error (first failure rfl)

theorem foldlM {f : β → α → Except Failure β} (each : ∀ b a, Ordinary (f b a)) (start : β)
    (items : List α) : Ordinary (items.foldlM f start) := by
  induction items generalizing start with
  | nil => exact ok start
  | cons item rest ih =>
    rw [List.foldlM_cons]
    exact (each start item).bind ih

theorem mapM_id {results : List (Except Failure α)} (each : ∀ result ∈ results, Ordinary result) :
    Ordinary (results.mapM id) := by
  induction results with
  | nil => exact ok []
  | cons result rest ih =>
    rw [List.mapM_cons]
    rw [List.forall_mem_cons] at each
    exact each.1.bind fun _ => (ih each.2).bind fun _ => ok _

variable {a b : Value} {name : String} {values : List Value}

theorem onNumbers (onInts : Int64 → Int64 → Int64) (onFloats : Double → Double → Double) :
    Ordinary (Value.onNumbers onInts onFloats a b) := by
  fun_cases Value.onNumbers onInts onFloats a b with
  | case1 | case2 => exact ok _
  | case3 => exact error (typeMismatch _ _)

theorem onDivisor (onInts : Int64 → Int64 → Int64) (onFloats : Double → Double → Double) :
    Ordinary (Value.onDivisor onInts onFloats a b) := by
  rw [Value.onDivisor]
  split
  · exact error divisionByZero
  · exact onNumbers onInts onFloats

theorem onInts (op : Int64 → Int64 → Int64) : Ordinary (Value.onInts op a b) := by
  fun_cases Value.onInts op a b with
  | case1 => exact ok _
  | case2 | case3 => exact error (typeMismatch _ _)

theorem add : Ordinary (Value.add a b) := by
  rw [Value.add]
  split
  · exact ok _
  · exact onNumbers _ _

theorem abs : Ordinary a.abs := by
  fun_cases Value.abs a with
  | case1 | case2 => exact ok _
  | case3 => exact error (typeMismatch _ _)

theorem comparison : Ordinary (a.comparison b) := by
  fun_cases Value.comparison a b with
  | case1 => exact ok _
  | case2 => exact error (typeMismatch _ _)
  | case3 a b _ _ numbers => exact ok _
  | case4 a b _ _ numbers incomparable =>
    exact error (unordered (Bool.and_eq_true_iff.mp numbers) incomparable)
  | case5 => exact error (typeMismatch _ _)

theorem property : Ordinary (a.property b) := by
  fun_cases Value.property a b with
  | case1 | case2 | case3 => exact ok _
  | case4 | case5 | case6 => exact error (typeMismatch _ _)

theorem reduce {op : Value → Value → Except Failure Value} (each : ∀ a b, Ordinary (op a b)) :
    Ordinary (Value.reduce name op values) := by
  cases values with
  | nil => exact error (arityMismatch _ _)
  | cons first rest => exact foldlM each first rest

theorem unary {f : Value → Except Failure Value} (each : ∀ a, Ordinary (f a)) :
    Ordinary (Operator.unary name f values) := by
  fun_cases Operator.unary name f values with
  | case1 a => exact each a
  | case2 => exact error (arityMismatch _ _)

theorem binary {f : Value → Value → Except Failure Value} (each : ∀ a b, Ordinary (f a b)) :
    Ordinary (Operator.binary name f values) := by
  fun_cases Operator.binary name f values with
  | case1 a b => exact each a b
  | case2 => exact error (arityMismatch _ _)

theorem apply (operator : Operator) : Ordinary (operator.apply values) := by
  cases operator with
  | add => exact reduce fun _ _ => add
  | sub | mul => exact reduce fun _ _ => onNumbers _ _
  | div | rem => exact reduce fun _ _ => onDivisor _ _
  | bitAnd | bitOr | bitXor => exact reduce fun _ _ => onInts _
  | abs => exact unary fun _ => abs
  | not => exact unary fun _ => ok _
  | lt | gt | le | ge => exact binary fun _ _ => comparison.map _
  | eq | ne => exact binary fun _ _ => ok _
  | and | or => exact ok _
  | get =>
    cases values with
    | nil => exact error (arityMismatch _ _)
    | cons base keys => exact foldlM (fun _ _ => property) base keys

theorem firstDeciding {results : List (Except Failure Value)} (deciding : Bool) (last : Value)
    (each : ∀ result ∈ results, Ordinary result) :
    Ordinary (Operator.firstDeciding deciding last results) := by
  induction results generalizing last with
  | nil => exact ok last
  | cons result rest ih =>
    rw [List.forall_mem_cons] at each
    refine each.1.bind fun value => ?_
    split
    · exact ok value
    · exact ih value each.2

theorem eager {results : List (Except Failure Value)} (operator : Operator)
    (each : ∀ result ∈ results, Ordinary result) : Ordinary (operator.eager results) := by
  rw [Operator.eager]
  split
  · split
    · exact error (arityMismatch _ _)
    · exact firstDeciding _ _ each
  · exact (mapM_id each).bind fun _ => apply operator

variable (scope : Scope)

mutual

theorem evaluate : ∀ node : Node, Ordinary (node.evaluate scope)
  | .literal _ | .reactive _ | .static _ => by
    rw [Node.evaluate]
    exact ok _
  | .call operator args => by
    rw [Node.evaluate_call]
    exact eager operator (evaluateAll args)

theorem evaluateAll :
    ∀ nodes : List Node, ∀ result ∈ nodes.map (Node.evaluate scope), Ordinary result
  | [] => List.forall_mem_nil _
  | node :: rest => by
    rw [List.map_cons, List.forall_mem_cons]
    exact ⟨evaluate node, evaluateAll rest⟩

end

end Ordinary

end Script

end DialogueEngine
