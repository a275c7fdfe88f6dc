import DialogueEngine.Proofs.Prelude.Registration
import DialogueEngine.Proofs.Script.InTurn

/-!
# Expressions as operands

An embedded expression says the same as an operand that calls the host functions of the prelude.
The functions check the number of their arguments before they evaluate them, and follow a key
before they evaluate the next, so that the two may fail differently; they give the same values.
-/

namespace DialogueEngine

namespace Script.Node

mutual

/-- The operand that calls the host function of the same symbol for each operator. -/
def operand : Node → Operand
  | literal value => .literal value
  | reactive name => .call "$VAR" [.literal (.string name)]
  | static name => .call "#VAR" [.literal (.string name)]
  | call operator args => .call operator.symbol (operands args)

def operands : List Node → List Operand
  | [] => []
  | node :: rest => operand node :: operands rest

end

end Script.Node

namespace Engine

open Script Script.Node

variable {σ : Type} {e : Engine σ}

section

variable {operands : List Operand} {results : List (Except Failure Value)}

/-- Evaluating all arguments first. -/
theorem concludes_values {next : List Value → Computation σ}
    {rest : List Value → Except Failure Value} (yields : List.Forall₂ e.Yields operands results)
    (goesOn : ∀ values, e.Concludes (next values) (rest values)) :
    e.Concludes (Computation.values operands next) (results.mapM id >>= rest) := by
  induction yields generalizing next rest with
  | nil => exact goesOn []
  | @cons operand result operands results first _ ih =>
    have concludes := Concludes.value first fun value => ih fun values => goesOn (value :: values)
    have same : ((result :: results).mapM id >>= rest) =
        (result >>= fun value => results.mapM id >>= fun values => rest (value :: values)) := by
      rw [List.mapM_cons]
      cases result with
      | error failure => rfl
      | ok value => cases results.mapM id <;> rfl
    rw [same]
    exact concludes

/-- A number of arguments that is refused is not the one that a function expects. -/
theorem concludes_refused {operator : Operator} {arity : Nat} (fixed : operator.arity? = some arity)
    (yields : List.Forall₂ e.Yields operands results) (other : results.length ≠ arity) :
    e.Concludes (Computation.wrongArity (toString arity) operator.symbol operands)
      (operator.inTurn results) := by
  rw [Operator.inTurn_of_refusal? (Operator.refusal?_of_arity? fixed other),
    Computation.wrongArity, yields.length_eq]
  exact Concludes.fail _

theorem concludes_one {operator : Operator} {name : String} {next : Value → Computation σ}
    (symbol : operator.symbol = name) (arity : operator.arity? = some 1)
    (yields : List.Forall₂ e.Yields operands results)
    (goesOn : ∀ a, e.Concludes (next a) (operator.apply [a])) :
    e.Concludes (Computation.one name operands next) (operator.inTurn results) := by
  subst symbol
  have refused := concludes_refused arity yields
  cases yields with
  | nil => exact refused (by simp)
  | @cons _ result _ _ first rest =>
    cases rest with
    | nil =>
      have same : ([result].mapM id >>= operator.apply) = (result >>= (operator.apply [·])) := by
        cases result <;> rfl
      rw [Operator.inTurn_of_arity? arity, same]
      exact Concludes.value first goesOn
    | cons => exact refused (by simp)

theorem concludes_two {operator : Operator} {name : String} {next : Value → Value → Computation σ}
    (symbol : operator.symbol = name) (arity : operator.arity? = some 2)
    (yields : List.Forall₂ e.Yields operands results)
    (goesOn : ∀ a b, e.Concludes (next a b) (operator.apply [a, b])) :
    e.Concludes (Computation.two name operands next) (operator.inTurn results) := by
  subst symbol
  have refused := concludes_refused arity yields
  cases yields with
  | nil => exact refused (by simp)
  | @cons _ left _ _ first rest =>
    cases rest with
    | nil => exact refused (by simp)
    | @cons _ right _ _ second rest =>
      cases rest with
      | nil =>
        have same : ([left, right].mapM id >>= operator.apply) =
            (left >>= fun a => right >>= fun b => operator.apply [a, b]) := by
          cases left with
          | error failure => rfl
          | ok a => cases right <;> rfl
        rw [Operator.inTurn_of_arity? arity, same]
        exact Concludes.value first fun a => Concludes.value second fun b => goesOn a b
      | cons => exact refused (by simp)

theorem concludes_variadic {operator : Operator} {name : String}
    {op : Value → Value → Except Failure Value}
    (reduces : operator.eager results = results.mapM id >>= Value.reduce name op)
    (orderly : operator.Orderly results) (yields : List.Forall₂ e.Yields operands results) :
    e.Concludes (Prelude.variadic name op operands) (operator.inTurn results) := by
  rw [orderly.inTurn_eq, reduces]
  exact concludes_values yields fun _ => Concludes.done _

theorem concludes_follow (base : Value) (yields : List.Forall₂ e.Yields operands results) :
    e.Concludes (Prelude.follow base operands) (Operator.follow base results) := by
  induction yields generalizing base with
  | nil => exact Concludes.done _
  | cons first _ ih =>
    refine Concludes.value first fun key => ?_
    cases base.property key with
    | ok next => exact ih next
    | error failure => exact Concludes.fail failure

theorem concludes_get (yields : List.Forall₂ e.Yields operands results) :
    e.Concludes (Prelude.get operands) (Operator.get.inTurn results) := by
  cases yields with
  | nil => exact Concludes.fail _
  | cons first rest => exact Concludes.value first fun base => concludes_follow base rest

theorem concludes_valueUntil (deciding : Bool) (last : Value)
    (yields : List.Forall₂ e.Yields operands results) :
    e.Concludes (Prelude.valueUntil deciding last operands)
      (Operator.firstDeciding deciding last results) := by
  induction yields generalizing last with
  | nil => exact Concludes.done _
  | cons first _ ih =>
    refine Concludes.value first fun value => ?_
    split
    · exact Concludes.done _
    · exact ih value

theorem concludes_decided {operator : Operator} {name : String} {deciding : Bool}
    (symbol : operator.symbol = name) (decides : operator.deciding? = some deciding)
    (yields : List.Forall₂ e.Yields operands results) :
    e.Concludes (Prelude.decided name deciding operands) (operator.inTurn results) := by
  have concludes := concludes_valueUntil deciding .nil yields
  cases operator with
  | and | or =>
    cases decides
    cases yields with
    | nil =>
      subst symbol
      exact Concludes.fail _
    | cons => exact concludes
  | _ => cases decides

/-- For each operator there is a function in the prelude that looks at its arguments in turn. -/
theorem exists_concludes (operator : Operator) (yields : List.Forall₂ e.Yields operands results) :
    ∃ function, Prelude.all.lookup operator.symbol = some function ∧
      e.Concludes (function operands) (operator.inTurn results) := by
  cases operator with
  | add | sub | mul | div | rem | bitAnd | bitOr | bitXor =>
    exact ⟨_, rfl, concludes_variadic rfl (Operator.orderly_of_arity? rfl nofun) yields⟩
  | abs | not => exact ⟨_, rfl, concludes_one rfl rfl yields fun _ => Concludes.done _⟩
  | lt | gt | le | ge | eq | ne =>
    exact ⟨_, rfl, concludes_two rfl rfl yields fun _ _ => Concludes.done _⟩
  | and | or => exact ⟨_, rfl, concludes_decided rfl rfl yields⟩
  | get => exact ⟨_, rfl, concludes_get yields⟩

end

theorem yields_variable {symbol : String} {next : String → Computation σ}
    {content : String → Value} (name : String)
    (bound : e.functions.find? symbol = some (Prelude.named symbol next))
    (concludes : ∀ name, e.Concludes (next name) (.ok (content name))) :
    e.Yields (.call symbol [.literal (.string name)]) (.ok (content name)) := by
  have named : e.Concludes (Prelude.named symbol next [.literal (.string name)])
      (.ok (content name)) := Concludes.evaluate (yields_literal _) (concludes name)
  exact named.yields bound

mutual

/-- The prelude makes of an operand what looking at arguments in turn makes of the expression. -/
theorem yields_operand (binds : e.BindsPrelude) :
    ∀ node : Node, e.Yields node.operand (node.inTurn e.scope)
  | .literal value => yields_literal value
  | .reactive name => by
    refine yields_variable name (binds.find? rfl) fun name => ?_
    exact Concludes.observe (Concludes.done (.ok (e.scope.reactive name)))
  | .static name => by
    refine yields_variable name (binds.find? rfl) fun name => ?_
    exact Concludes.observe (Concludes.done (.ok (e.scope.static name)))
  | .call operator args => by
    obtain ⟨function, found, concludes⟩ := exists_concludes operator (yields_operands binds args)
    exact concludes.yields (binds.find? found)

theorem yields_operands (binds : e.BindsPrelude) :
    ∀ nodes : List Node, List.Forall₂ e.Yields (operands nodes) (inTurns e.scope nodes)
  | [] => .nil
  | node :: rest => .cons (yields_operand binds node) (yields_operands binds rest)

end

theorem evaluates_operand (binds : e.BindsPrelude) (node : Node) :
    e.Evaluates node.operand (node.evaluate e.scope) := by
  obtain ⟨fuel, evaluated⟩ := yields_operand binds node
  exact ⟨fuel, _, evaluated, alike_inTurn node⟩

/-- An expression and the operand that it stands for have the same value, or both have none. The
operand is evaluated in any case, and changes nothing. -/
theorem evaluate_operand_iff (binds : e.BindsPrelude) (node : Node) :
    ∃ result, (∃ enough, ∀ fuel, enough ≤ fuel →
        e.evaluate fuel node.operand e.world = some (result, e.world)) ∧
      ∀ value, node.evaluate e.scope = .ok value ↔ result = .ok value := by
  obtain ⟨enough, result, evaluated, alike⟩ := evaluates_operand binds node
  refine ⟨result, ⟨enough, ?_⟩, ?_⟩
  · intro fuel le
    exact evaluate_mono le evaluated
  · intro value
    exact (alike value).symm

/-- An engine with the prelude and a variable. -/
def counting : Engine Unit := ((Engine.new {} ()).perform (.declare "count" (.int 20))).withPrelude

/-- One more than the variable. -/
def increment : Node := .call .add [.reactive "count", .literal (.int 1)]

theorem evaluate_increment :
    counting.BindsPrelude ∧ ∃ enough, ∀ fuel, enough ≤ fuel →
      counting.evaluate fuel increment.operand counting.world =
        some (.ok (.int 21), counting.world) := by
  have binds : counting.BindsPrelude := bindsPrelude_withPrelude _
  obtain ⟨result, ⟨enough, evaluated⟩, alike⟩ := evaluate_operand_iff binds increment
  have value : increment.evaluate counting.scope = .ok (.int 21) := by
    have count : counting.scope.reactive "count" = .int 20 := rfl
    rw [increment, Node.evaluate]
    simp only [Operator.deciding?, evaluateAll, Node.evaluate, count]
    rfl
  have same : result = .ok (.int 21) := (alike (.int 21)).mp value
  rw [same] at evaluated
  exact ⟨binds, enough, evaluated⟩

end Engine

end DialogueEngine
