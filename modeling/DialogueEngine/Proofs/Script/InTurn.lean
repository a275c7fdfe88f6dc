import DialogueEngine.Script.Evaluation
import DialogueEngine.Proofs.Engine.Outcome
import Mathlib.Data.List.Forall2

/-!
# Arguments in turn

Operators evaluate all their arguments before they look at them, except for `and` and `or`. The
functions of the prelude refuse a number of arguments before they evaluate any, and follow a key
before they evaluate the next one. Evaluation changes nothing, so that either way an outcome depends
on the results of the arguments alone. The two differ where a call is at fault twice: then they may
fail differently, but they give the same values.
-/

namespace DialogueEngine.Script

open Engine (Alike alike_refl)

namespace Operator

/-- The number of arguments, where it is fixed. -/
def arity? : Operator → Option Nat
  | abs | not => some 1
  | lt | gt | le | ge | eq | ne => some 2
  | _ => none

/-- Why a number of arguments is refused, if it is. -/
def refusal? (operator : Operator) (count : Nat) : Option Failure :=
  match operator.arity? with
  | some arity =>
      if count = arity then none
      else some ⟨.arityMismatch (toString arity ++ " for " ++ operator.symbol) count, none⟩
  | none =>
      if count = 0 then some ⟨.arityMismatch ("at least 1 for " ++ operator.symbol) 0, none⟩
      else none

/-- The first value with the deciding truth value, or the last value. -/
def firstDeciding (deciding : Bool) : Value → List (Except Failure Value) → Except Failure Value
  | last, [] => .ok last
  | _, result :: rest => do
      let value ← result
      if value.isTruthy = deciding then .ok value else firstDeciding deciding value rest

/-- Follows each key before the next one is looked at. -/
def follow : Value → List (Except Failure Value) → Except Failure Value
  | base, [] => .ok base
  | base, result :: rest => do
      let key ← result
      let next ← base.property key
      follow next rest

/-- What an operator makes of the results of its arguments. -/
def eager (operator : Operator) (results : List (Except Failure Value)) : Except Failure Value :=
  match operator.deciding? with
  | some deciding =>
      if results.isEmpty then
        .error ⟨.arityMismatch ("at least 1 for " ++ operator.symbol) 0, none⟩
      else firstDeciding deciding .nil results
  | none => results.mapM id >>= operator.apply

/-- What the function of the prelude makes of the results of its arguments. -/
def inTurn (operator : Operator) (results : List (Except Failure Value)) : Except Failure Value :=
  match operator.refusal? results.length with
  | some failure => .error failure
  | none =>
      match operator, results with
      | and, _ => firstDeciding false .nil results
      | or, _ => firstDeciding true .nil results
      | get, base :: keys => base >>= fun value => follow value keys
      | _, _ => results.mapM id >>= operator.apply

/-- All results are values. -/
def Succeed (results : List (Except Failure Value)) : Prop :=
  ∃ values : List Value, results = values.map .ok

/-- No call is at fault twice: the arguments all have values if their number is refused, and so have
the keys behind those that cannot be followed. -/
structure Orderly (operator : Operator) (results : List (Except Failure Value)) : Prop where
  succeed_of_refusal {failure : Failure} :
    operator.refusal? results.length = some failure → Succeed results
  succeed_of_path {base : Value} {keys : List Value} {later : List (Except Failure Value)}
      {failure : Failure} :
    operator = .get → results = .ok base :: (keys.map .ok ++ later) →
      base.path keys = .error failure → Succeed later

section

variable {operator : Operator} {results : List (Except Failure Value)} {values : List Value}
  {failure : Failure} {value : Value}

@[simp]
theorem mapM_id_map_ok :
    (values.map Except.ok : List (Except Failure Value)).mapM id = .ok values := by
  induction values with
  | nil => rfl
  | cons value rest ih =>
    rw [List.map_cons, List.mapM_cons, ih]
    rfl

theorem eq_map_ok_of_mapM_id (evaluated : results.mapM id = .ok values) :
    results = values.map .ok := by
  induction results generalizing values with
  | nil =>
    cases evaluated
    rfl
  | cons result rest ih =>
    simp only [List.mapM_cons, bind_eq_ok_iff] at evaluated
    obtain ⟨value, first, others, all, same⟩ := evaluated
    cases same
    obtain rfl : result = .ok value := first
    rw [ih all, List.map_cons]

theorem apply_of_refusal? (eager : operator.deciding? = none)
    (refused : operator.refusal? values.length = some failure) :
    operator.apply values = .error failure := by
  cases operator with
  | and | or => cases eager
  | add | sub | mul | div | rem | bitAnd | bitOr | bitXor | get =>
    cases values with
    | nil =>
      cases refused
      rfl
    | cons => cases refused
  | abs | not =>
    match values with
    | [_] => cases refused
    | [] | _ :: _ :: _ =>
      cases refused
      rfl
  | lt | gt | le | ge | eq | ne =>
    match values with
    | [_, _] => cases refused
    | [] | [_] | _ :: _ :: _ :: _ =>
      cases refused
      rfl

theorem inTurn_of_refusal? (refused : operator.refusal? results.length = some failure) :
    operator.inTurn results = .error failure := by
  simp only [inTurn, refused]

theorem refusal?_of_arity? {arity count : Nat} (fixed : operator.arity? = some arity)
    (other : count ≠ arity) :
    operator.refusal? count =
      some ⟨.arityMismatch (toString arity ++ " for " ++ operator.symbol) count, none⟩ := by
  simp only [refusal?, fixed, if_neg other]

theorem inTurn_of_arity? (fixed : operator.arity? = some results.length) :
    operator.inTurn results = results.mapM id >>= operator.apply := by
  simp only [inTurn, refusal?, fixed, if_pos]
  cases operator with
  | and | or | get => cases fixed
  | _ => rfl

theorem path_cons (base key : Value) (keys : List Value) :
    base.path (key :: keys) = base.property key >>= fun next => next.path keys := by
  rw [Value.path, List.foldlM_cons]
  rfl

/-- Following keys in turn is following them all at once, unless one of them fails behind one that
cannot be followed. -/
theorem follow_eq {base : Value} (orderly : ∀ keys later failure,
      results = keys.map .ok ++ later → base.path keys = .error failure → Succeed later) :
    follow base results = results.mapM id >>= base.path := by
  induction results generalizing base with
  | nil => rfl
  | cons result rest ih =>
    rw [follow, List.mapM_cons]
    cases result with
    | error failure => rfl
    | ok key =>
      have goesOn : base.property key >>= (follow · rest) =
          rest.mapM id >>= fun keys => base.path (key :: keys) := by
        simp only [path_cons]
        cases found : base.property key with
        | ok next =>
          refine ih fun keys later failure split fails => ?_
          refine orderly (key :: keys) later failure (by rw [split]; rfl) ?_
          rw [path_cons, found]
          exact fails
        | error failure =>
          have fails : base.path [key] = .error failure := by
            rw [path_cons, found]
            rfl
          obtain ⟨keys, rfl⟩ := orderly [key] rest failure rfl fails
          rw [mapM_id_map_ok]
          rfl
      refine goesOn.trans ?_
      cases rest.mapM id <;> rfl

theorem eager_of_refusal? (refused : operator.refusal? results.length = some failure)
    (succeed : Succeed results) : operator.eager results = .error failure := by
  obtain ⟨values, rfl⟩ := succeed
  rw [List.length_map] at refused
  cases decides : operator.deciding? with
  | none =>
    simp only [eager, decides, mapM_id_map_ok]
    exact apply_of_refusal? decides refused
  | some deciding =>
    cases operator with
    | and | or =>
      cases values with
      | nil =>
        cases refused
        rfl
      | cons => cases refused
    | _ => cases decides

/-- Operators do the same in either order unless a call is at fault twice. -/
theorem Orderly.inTurn_eq (orderly : operator.Orderly results) :
    operator.inTurn results = operator.eager results := by
  cases refused : operator.refusal? results.length with
  | some failure =>
    rw [inTurn_of_refusal? refused, eager_of_refusal? refused (orderly.succeed_of_refusal refused)]
  | none =>
    simp only [inTurn, refused]
    cases operator with
    | and | or =>
      cases results with
      | nil => cases refused
      | cons => rfl
    | get =>
      cases results with
      | nil => cases refused
      | cons result rest =>
        have all : get.eager (result :: rest) = (result :: rest).mapM id >>= get.apply := rfl
        rw [all, List.mapM_cons]
        cases result with
        | error failure => rfl
        | ok base =>
          refine (follow_eq fun keys later failure split fails =>
            orderly.succeed_of_path rfl (congrArg _ split) fails).trans ?_
          cases rest.mapM id <;> rfl
    | _ => rfl

theorem orderly_of_arity? (free : operator.arity? = none) (other : operator ≠ .get) :
    operator.Orderly results where
  succeed_of_refusal refused := by
    simp only [refusal?, free] at refused
    cases results with
    | nil => exact ⟨[], rfl⟩
    | cons => cases refused
  succeed_of_path same := absurd same other

theorem orderly_of_succeed (succeed : Succeed results) : operator.Orderly results where
  succeed_of_refusal _ := succeed
  succeed_of_path {base keys later failure} _ split _ := by
    obtain ⟨values, rfl⟩ := succeed
    refine ⟨values.drop (keys.length + 1), ?_⟩
    rw [List.map_drop, split, List.drop_succ_cons, ← List.length_map (f := Except.ok),
      List.drop_left]

/-! ## Without regard to failures -/

theorem succeed_of_follow {base : Value} (followed : follow base results = .ok value) :
    Succeed results := by
  induction results generalizing base with
  | nil => exact ⟨[], rfl⟩
  | cons result rest ih =>
    simp only [follow, bind_eq_ok_iff] at followed
    obtain ⟨key, rfl, next, -, followed⟩ := followed
    obtain ⟨keys, rfl⟩ := ih followed
    exact ⟨key :: keys, rfl⟩

theorem succeed_of_mapM_id {rest : List Value → Except Failure Value}
    (evaluated : results.mapM id >>= rest = .ok value) : Succeed results := by
  obtain ⟨values, all, -⟩ := bind_eq_ok_iff.mp evaluated
  exact ⟨values, eq_map_ok_of_mapM_id all⟩

/-- An operator that gives a value has needed the values of all its arguments, unless it is one that
decides. -/
theorem succeed_of_inTurn (decides : operator.deciding? = none)
    (evaluated : operator.inTurn results = .ok value) : Succeed results := by
  cases refused : operator.refusal? results.length with
  | some failure =>
    rw [inTurn_of_refusal? refused] at evaluated
    cases evaluated
  | none =>
    simp only [inTurn, refused] at evaluated
    split at evaluated
    · cases decides
    · cases decides
    · obtain ⟨base, rfl, followed⟩ := bind_eq_ok_iff.mp evaluated
      obtain ⟨keys, rfl⟩ := succeed_of_follow followed
      exact ⟨base :: keys, rfl⟩
    · exact succeed_of_mapM_id evaluated

theorem succeed_of_eager (decides : operator.deciding? = none)
    (evaluated : operator.eager results = .ok value) : Succeed results := by
  simp only [eager, decides] at evaluated
  exact succeed_of_mapM_id evaluated

/-- Failures of arguments do not matter to the values that an operator gives. -/
theorem alike_firstDeciding {others : List (Except Failure Value)} (deciding : Bool) (last : Value)
    (alike : List.Forall₂ Alike results others) :
    Alike (firstDeciding deciding last results) (firstDeciding deciding last others) := by
  induction alike generalizing last with
  | nil => exact alike_refl _
  | cons first _ ih =>
    refine first.bind fun value => ?_
    split
    · exact alike_refl _
    · exact ih value

theorem eq_of_alike {others : List (Except Failure Value)}
    (alike : List.Forall₂ Alike results others) (succeed : Succeed results) : results = others := by
  obtain ⟨values, rfl⟩ := succeed
  induction values generalizing others with
  | nil =>
    cases alike
    rfl
  | cons value rest ih =>
    cases alike with
    | cons first others =>
      rw [List.map_cons, ← ih others, (first value).mp rfl]

theorem alike_inTurn {others : List (Except Failure Value)} (operator : Operator)
    (alike : List.Forall₂ Alike results others) :
    Alike (operator.inTurn results) (operator.eager others) := by
  cases decides : operator.deciding? with
  | none =>
    -- an operator with a value had the values of all arguments, and then the order does not matter
    intro value
    constructor
    · intro evaluated
      have succeed := succeed_of_inTurn decides evaluated
      rw [← eq_of_alike alike succeed, ← (orderly_of_succeed succeed).inTurn_eq, evaluated]
    · intro evaluated
      have succeed := succeed_of_eager decides evaluated
      have same := eq_of_alike (alike.flip.imp fun _ _ alike value => (alike value).symm) succeed
      rw [← same, (orderly_of_succeed succeed).inTurn_eq, evaluated]
  | some deciding =>
    have orderly : operator.Orderly results := by
      cases operator with
      | and | or => exact orderly_of_arity? rfl nofun
      | _ => cases decides
    rw [orderly.inTurn_eq]
    simp only [eager, decides]
    cases alike with
    | nil => exact alike_refl _
    | cons first rest => exact alike_firstDeciding deciding .nil (.cons first rest)

end

end Operator

namespace Node

variable (scope : Scope)

mutual

/-- What the prelude makes of an expression. -/
def inTurn : Node → Except Failure Value
  | literal value => .ok value
  | reactive name => .ok (scope.reactive name)
  | static name => .ok (scope.static name)
  | call operator args => operator.inTurn (inTurns args)

def inTurns : List Node → List (Except Failure Value)
  | [] => []
  | node :: rest => inTurn node :: inTurns rest

end

mutual

/-- No call in an expression is at fault twice. -/
def Orderly : Node → Prop
  | call operator args =>
      AllOrderly args ∧ operator.Orderly (args.map (evaluate scope))
  | _ => True

def AllOrderly : List Node → Prop
  | [] => True
  | node :: rest => Orderly node ∧ AllOrderly rest

end

variable {scope}

theorem evaluateAll_eq (args : List Node) :
    evaluateAll scope args = (args.map (evaluate scope)).mapM id := by
  induction args with
  | nil => rfl
  | cons node rest ih =>
    rw [evaluateAll, ih, List.map_cons, List.mapM_cons]
    rfl

theorem evaluateUntil_eq (deciding : Bool) (last : Value) (args : List Node) :
    evaluateUntil scope deciding last args =
      Operator.firstDeciding deciding last (args.map (evaluate scope)) := by
  induction args generalizing last with
  | nil => rfl
  | cons node rest ih =>
    rw [evaluateUntil, List.map_cons, Operator.firstDeciding]
    cases node.evaluate scope with
    | error failure => rfl
    | ok value =>
      simp only [ih]
      rfl

theorem evaluate_call (operator : Operator) (args : List Node) :
    (call operator args).evaluate scope = operator.eager (args.map (evaluate scope)) := by
  cases decides : operator.deciding? with
  | none => simp only [evaluate, Operator.eager, decides, evaluateAll_eq]
  | some deciding =>
    simp only [evaluate, Operator.eager, decides, evaluateUntil_eq, List.isEmpty_map]

mutual

theorem Orderly.inTurn_eq : ∀ {node : Node},
    node.Orderly scope → node.inTurn scope = node.evaluate scope
  | .literal _, _ | .reactive _, _ | .static _, _ => by rw [inTurn, evaluate]
  | .call operator args, orderly => by
    rw [Orderly] at orderly
    rw [inTurn, evaluate_call, AllOrderly.inTurns_eq orderly.1, orderly.2.inTurn_eq]

theorem AllOrderly.inTurns_eq : ∀ {nodes : List Node},
    AllOrderly scope nodes → inTurns scope nodes = nodes.map (evaluate scope)
  | [], _ => rfl
  | node :: rest, orderly => by
    rw [AllOrderly] at orderly
    rw [inTurns, List.map_cons, Orderly.inTurn_eq orderly.1, AllOrderly.inTurns_eq orderly.2]

end

mutual

/-- In turn or not, an expression has the same values. -/
theorem alike_inTurn : ∀ node : Node, Alike (node.inTurn scope) (node.evaluate scope)
  | .literal _ | .reactive _ | .static _ => by
    rw [inTurn, evaluate]
    exact alike_refl _
  | .call operator args => by
    rw [inTurn, evaluate_call]
    exact Operator.alike_inTurn operator (alike_inTurns args)

theorem alike_inTurns : ∀ nodes : List Node,
    List.Forall₂ Alike (inTurns scope nodes) (nodes.map (evaluate scope))
  | [] => .nil
  | node :: rest => .cons (alike_inTurn node) (alike_inTurns rest)

end

end Node

end DialogueEngine.Script
