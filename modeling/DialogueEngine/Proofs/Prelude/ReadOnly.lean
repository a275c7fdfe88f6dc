import DialogueEngine.Proofs.Engine.Evaluation
import DialogueEngine.Proofs.Prelude.Registration

/-!
# Functions that only read

The functions of the prelude look at nothing but their arguments and the variables, and change
nothing. So evaluation leaves the world as it is on an engine that has no other functions.
-/

namespace DialogueEngine

variable {σ : Type}

/-- A computation only evaluates operands and looks at the engine. -/
def Computation.ReadOnly : Computation σ → Prop
  | .done _ => True
  | .evaluate _ next => ∀ result, (next result).ReadOnly
  | .react .. | .consult _ => False
  | .observe next => ∀ outlook, (next outlook).ReadOnly

def HostFunction.ReadOnly (function : HostFunction σ) : Prop := ∀ args, (function args).ReadOnly

namespace Computation

theorem readOnly_value (operand : Operand) {next : Value → Computation σ}
    (rest : ∀ value, (next value).ReadOnly) : (value operand next).ReadOnly := by
  intro result
  cases result with
  | ok value => exact rest value
  | error failure => trivial

theorem readOnly_values (operands : List Operand) {next : List Value → Computation σ}
    (rest : ∀ values, (next values).ReadOnly) : (values operands next).ReadOnly := by
  induction operands generalizing next with
  | nil => exact rest []
  | cons operand operands ih =>
    exact readOnly_value operand fun first => ih fun others => rest (first :: others)

theorem readOnly_one (name : String) (args : List Operand) {next : Value → Computation σ}
    (rest : ∀ value, (next value).ReadOnly) : (one name args next).ReadOnly := by
  match args with
  | [a] => exact readOnly_value a rest
  | [] | _ :: _ :: _ => trivial

theorem readOnly_two (name : String) (args : List Operand) {next : Value → Value → Computation σ}
    (rest : ∀ x y, (next x y).ReadOnly) : (two name args next).ReadOnly := by
  match args with
  | [a, b] => exact readOnly_value a fun x => readOnly_value b fun y => rest x y
  | [] | [_] | _ :: _ :: _ :: _ => trivial

end Computation

open DialogueEngine.Computation

namespace Prelude

theorem readOnly_variadic (name : String) (op : Value → Value → Except Failure Value) :
    HostFunction.ReadOnly (σ := σ) (variadic name op) :=
  fun args => readOnly_values args fun _ => trivial

theorem readOnly_comparing (name : String) (accepts : Ordering → Bool) :
    HostFunction.ReadOnly (σ := σ) (comparing name accepts) :=
  fun args => readOnly_two name args fun _ _ => trivial

theorem readOnly_valueUntil (deciding : Bool) (last : Value) (operands : List Operand) :
    (valueUntil deciding last operands : Computation σ).ReadOnly := by
  induction operands generalizing last with
  | nil => trivial
  | cons operand rest ih =>
    refine readOnly_value operand fun a => ?_
    split
    · trivial
    · exact ih a

theorem readOnly_decided (name : String) (deciding : Bool) :
    HostFunction.ReadOnly (σ := σ) (decided name deciding) := by
  intro args
  cases args with
  | nil => trivial
  | cons operand rest => exact readOnly_valueUntil deciding .nil (operand :: rest)

theorem readOnly_follow (base : Value) (keys : List Operand) :
    (follow base keys : Computation σ).ReadOnly := by
  induction keys generalizing base with
  | nil => trivial
  | cons key rest ih =>
    refine readOnly_value key fun k => ?_
    cases base.property k with
    | ok next => exact ih next
    | error failure => trivial

theorem readOnly_get : HostFunction.ReadOnly (σ := σ) get := by
  intro args
  cases args with
  | nil => trivial
  | cons base keys => exact readOnly_value base fun b => readOnly_follow b keys

theorem readOnly_named (name : String) {next : String → Computation σ}
    (rest : ∀ variableName, (next variableName).ReadOnly) :
    HostFunction.ReadOnly (named name next) := by
  intro args
  refine readOnly_one name args fun a => ?_
  split
  · exact rest _
  · trivial

theorem readOnly_math : ∀ function ∈ (math : List (String × HostFunction σ)),
    function.2.ReadOnly := by
  simp only [math, List.forall_mem_cons]
  refine ⟨?_, ?_, ?_, ?_, ?_, ?_, List.forall_mem_nil _⟩
  case refine_6 => exact fun args => readOnly_one "ABS" args fun _ => trivial
  -- the others fold an operation
  all_goals exact readOnly_variadic _ _

theorem readOnly_bitwise : ∀ function ∈ (bitwise : List (String × HostFunction σ)),
    function.2.ReadOnly := by
  simp only [bitwise, List.forall_mem_cons]
  refine ⟨?_, ?_, ?_, List.forall_mem_nil _⟩
  all_goals exact readOnly_variadic _ _

theorem readOnly_condition : ∀ function ∈ (condition : List (String × HostFunction σ)),
    function.2.ReadOnly := by
  simp only [condition, List.forall_mem_cons]
  refine ⟨?_, ?_, ?_, ?_, ?_, ?_, ?_, ?_, ?_, List.forall_mem_nil _⟩
  case refine_5 => exact fun args => readOnly_two "==" args fun _ _ => trivial
  case refine_6 => exact fun args => readOnly_two "!=" args fun _ _ => trivial
  case refine_7 => exact readOnly_decided "and" false
  case refine_8 => exact readOnly_decided "or" true
  case refine_9 => exact fun args => readOnly_one "not" args fun _ => trivial
  -- the others compare by the order
  all_goals exact readOnly_comparing _ _

theorem readOnly_primitive : ∀ function ∈ (primitive : List (String × HostFunction σ)),
    function.2.ReadOnly := by
  have reads (name : String) (read : String → Outlook → Value) : HostFunction.ReadOnly (σ := σ)
      (named name fun variableName =>
        .observe fun outlook => pure (read variableName outlook)) := by
    apply readOnly_named
    intro variableName outlook
    trivial
  simp only [primitive, List.forall_mem_cons]
  refine ⟨?_, ?_, readOnly_get, List.forall_mem_nil _⟩
  · exact reads "#VAR" fun name outlook => outlook.scope.static name
  · exact reads "$VAR" fun name outlook => outlook.scope.reactive name

theorem readOnly_all : ∀ function ∈ (all : List (String × HostFunction σ)),
    function.2.ReadOnly := by
  intro function mem
  simp only [all, List.mem_append] at mem
  rcases mem with ((math | bitwise) | condition) | primitive
  · exact readOnly_math function math
  · exact readOnly_bitwise function bitwise
  · exact readOnly_condition function condition
  · exact readOnly_primitive function primitive

end Prelude

namespace Engine

variable {e : Engine σ}

theorem OnlyPrelude.readOnly (only : e.OnlyPrelude) {name : String} {function : HostFunction σ}
    (found : e.functions.find? name = some function) : function.ReadOnly := by
  obtain ⟨original, mem⟩ := only name function found
  exact Prelude.readOnly_all _ mem

mutual

/-- Evaluation changes nothing if there are no other functions than those of the prelude. -/
theorem EvaluatesTo.world_eq {operand : Operand} {visited : List Operand}
    {result : Except Failure Value} {w after : World σ} (only : e.OnlyPrelude) :
    e.EvaluatesTo operand w visited result after → after = w
  | .literal _ _ => rfl
  | .unknown .. => rfl
  | .call bound computes => computes.world_eq only (only.readOnly bound _)

theorem ComputesTo.world_eq {computation : Computation σ} {visited : List Operand}
    {result : Except Failure Value} {w after : World σ} (only : e.OnlyPrelude) :
    e.ComputesTo computation w visited result after → computation.ReadOnly → after = w
  | .done _ _, _ => rfl
  | .evaluate evaluates rest, reads =>
    (rest.world_eq only (reads _)).trans (evaluates.world_eq only)
  | .react .., reads => reads.elim
  | .consult _, reads => reads.elim
  | .observe rest, reads => rest.world_eq only (reads _)

end

/-- The operand of an instruction is evaluated without a change of the world, by either evaluator. -/
theorem OnlyPrelude.world_eq (only : e.OnlyPrelude) {fuel : Nat} {operand : Operand}
    {embedded : Bool} {result : Except Failure Value} {w : World σ}
    (evaluated : e.evaluateOperand fuel operand embedded = some (result, w)) : w = e.world := by
  rw [evaluateOperand] at evaluated
  split at evaluated
  · cases evaluated
    rfl
  · obtain ⟨visited, evaluates⟩ := exists_evaluatesTo evaluated
    exact evaluates.world_eq only

end Engine

end DialogueEngine
