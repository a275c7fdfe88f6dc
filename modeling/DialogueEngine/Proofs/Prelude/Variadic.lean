import DialogueEngine.Proofs.Engine.Evaluation
import DialogueEngine.Proofs.Engine.Outcome
import DialogueEngine.Proofs.Prelude.Registration
import DialogueEngine.Script.Evaluation

/-!
# Variadic operators

An operator that folds a binary operation over its arguments makes the same of their values in an
embedded expression and in an operand that calls the function of the prelude. The operation is all
that looks at the types of the values, so a single value of whatever type is passed through.
-/

namespace DialogueEngine

namespace Script.Operator

/-- The binary operation that a variadic operator folds over the values of its arguments. -/
def operation? : Operator → Option (Value → Value → Except Failure Value)
  | add => some Value.add
  | sub => some Value.sub
  | mul => some Value.mul
  | div => some Value.div
  | rem => some Value.rem
  | bitAnd => some Value.bitAnd
  | bitOr => some Value.bitOr
  | bitXor => some Value.bitXor
  | _ => none

/-- What an operator makes of the values of its arguments, wherever these come from: in an embedded
expression, and in an operand on an engine where the symbol is bound to the function of the
prelude. -/
structure Gives (operator : Operator) (values : List Value) (outcome : Except Failure Value) :
    Prop where
  embedded {scope : Scope} {args : List Node}
    (evaluated : Node.evaluateAll scope args = .ok values) :
    (Node.call operator args).evaluate scope = outcome
  structured {σ : Type} {e : Engine σ} {args visited : List Operand} {w after : World σ}
    (bound : e.functions.find? operator.symbol = Prelude.all.lookup operator.symbol)
    (evaluate : e.EvaluateInOrder args w visited values after) :
    ∃ enough, ∀ fuel, enough ≤ fuel →
      e.evaluate fuel (.call operator.symbol args) w = some (outcome, after)

variable {operator : Operator} {operation : Value → Value → Except Failure Value}

theorem lookup_of_operation? {σ : Type} (variadic : operator.operation? = some operation) :
    (Prelude.all (σ := σ)).lookup operator.symbol =
      some (Prelude.variadic operator.symbol operation) := by
  cases operator with
  | add | sub | mul | div | rem | bitAnd | bitOr | bitXor =>
    cases variadic
    rfl
  | _ => cases variadic

theorem evaluate_of_operation? {scope : Scope} {args : List Node} {values : List Value}
    (variadic : operator.operation? = some operation)
    (evaluated : Node.evaluateAll scope args = .ok values) :
    (Node.call operator args).evaluate scope = Value.reduce operator.symbol operation values := by
  cases operator with
  | add | sub | mul | div | rem | bitAnd | bitOr | bitXor =>
    cases variadic
    simp only [Node.evaluate, deciding?, evaluated]
    rfl
  | _ => cases variadic

/-- A variadic operator folds its operation over the values of the arguments. -/
theorem gives_reduce (variadic : operator.operation? = some operation) (values : List Value) :
    operator.Gives values (Value.reduce operator.symbol operation values) where
  embedded evaluated := evaluate_of_operation? variadic evaluated
  structured {σ e args visited w after} bound evaluate := by
    rw [lookup_of_operation? variadic] at bound
    have computes : e.ComputesTo (Prelude.variadic operator.symbol operation args) w (visited ++ [])
        (Value.reduce operator.symbol operation values) after :=
      evaluate.values (.done _ _)
    obtain ⟨enough, evaluated⟩ := (Engine.EvaluatesTo.call bound computes).exists_evaluate
    exact ⟨enough, fun fuel le => Engine.evaluate_mono le evaluated⟩

end Script.Operator

/-! ## Operations on one kind of values -/

/-- A binary operation that takes and returns only values of a kind. -/
def Kind.Closed (kind : Kind) (operation : Value → Value → Except Failure Value) : Prop :=
  ∀ a b result, operation a b = .ok result →
    kind.accepts a.kind ∧ kind.accepts b.kind ∧ kind.accepts result.kind

/-- An outcome on values of a kind: a value of that kind, or a failure if there is a value of any
other kind among them. -/
structure Kind.Checked (kind : Kind) (values : List Value) (outcome : Except Failure Value) :
    Prop where
  accepted {result : Value} (succeeds : outcome = .ok result) :
    (∀ v ∈ values, kind.accepts v.kind) ∧ kind.accepts result.kind
  refused {v : Value} (mem : v ∈ values) (other : ¬ kind.accepts v.kind) :
    ∃ failure, outcome = .error failure

namespace Value

theorem accepts_of_asNumber? {a : Value} {x : Double} (number : a.asNumber? = some x) :
    Kind.number.accepts a.kind := by
  cases a with
  | int | float => rfl
  | _ => cases number

theorem closed_onNumbers (onInts : Int64 → Int64 → Int64) (onFloats : Double → Double → Double) :
    Kind.number.Closed (onNumbers onInts onFloats) := by
  intro a b result succeeds
  unfold onNumbers at succeeds
  split at succeeds
  · cases succeeds
    exact ⟨rfl, rfl, rfl⟩
  · split at succeeds
    · next left right =>
      cases succeeds
      exact ⟨accepts_of_asNumber? left, accepts_of_asNumber? right, rfl⟩
    · cases succeeds

theorem closed_onDivisor (onInts : Int64 → Int64 → Int64) (onFloats : Double → Double → Double) :
    Kind.number.Closed (onDivisor onInts onFloats) := by
  intro a b result succeeds
  rw [onDivisor] at succeeds
  split at succeeds
  · cases succeeds
  · exact closed_onNumbers onInts onFloats a b result succeeds

theorem closed_onInts (op : Int64 → Int64 → Int64) : Kind.int.Closed (onInts op) := by
  intro a b result succeeds
  unfold onInts at succeeds
  split at succeeds
  · cases succeeds
    exact ⟨rfl, rfl, rfl⟩
  · cases succeeds
  · cases succeeds

end Value

namespace Kind

variable {kind : Kind} {operation : Value → Value → Except Failure Value}

theorem Closed.foldlM (closed : kind.Closed operation) {first second result : Value}
    {rest : List Value} (succeeds : (second :: rest).foldlM operation first = .ok result) :
    (∀ v ∈ first :: second :: rest, kind.accepts v.kind) ∧ kind.accepts result.kind := by
  induction rest generalizing first second with
  | nil =>
    simp only [List.foldlM_cons, List.foldlM_nil, bind_pure] at succeeds
    obtain ⟨left, right, final⟩ := closed first second result succeeds
    simp [left, right, final]
  | cons third rest ih =>
    rw [List.foldlM_cons] at succeeds
    obtain ⟨middle, step, succeeds⟩ := bind_eq_ok_iff.mp succeeds
    obtain ⟨left, right, -⟩ := closed first second middle step
    obtain ⟨others, final⟩ := ih succeeds
    simp only [List.forall_mem_cons] at others ⊢
    exact ⟨⟨left, right, others.2⟩, final⟩

/-- With one value only, the operation is never applied. -/
theorem Closed.reduce (closed : kind.Closed operation) {name : String} {values : List Value}
    (several : values.length ≠ 1) : kind.Checked values (Value.reduce name operation values) := by
  have accepted {result : Value} (succeeds : Value.reduce name operation values = .ok result) :
      (∀ v ∈ values, kind.accepts v.kind) ∧ kind.accepts result.kind := by
    match values with
    | [] => cases succeeds
    | [v] => exact absurd rfl several
    | first :: second :: rest => exact closed.foldlM succeeds
  refine ⟨accepted, ?_⟩
  intro v mem other
  cases outcome : Value.reduce name operation values with
  | error failure => exact ⟨failure, rfl⟩
  | ok result => exact absurd ((accepted outcome).1 v mem) other

end Kind

namespace Script.Operator

/-- What the operands of a variadic operator have to be. Addition takes anything beside a text. -/
def operandKind? : Operator → Option Kind
  | sub | mul | div | rem => some .number
  | bitAnd | bitOr | bitXor => some .int
  | _ => none

theorem exists_closed {operator : Operator} {kind : Kind}
    (typed : operator.operandKind? = some kind) :
    ∃ operation, operator.operation? = some operation ∧ kind.Closed operation := by
  cases operator with
  | sub | mul =>
    cases typed
    exact ⟨_, rfl, Value.closed_onNumbers _ _⟩
  | div | rem =>
    cases typed
    exact ⟨_, rfl, Value.closed_onDivisor _ _⟩
  | bitAnd | bitOr | bitXor =>
    cases typed
    exact ⟨_, rfl, Value.closed_onInts _⟩
  | _ => cases typed

/-- An operator on values of a kind succeeds only if all arguments are of that kind, and with a value
of that kind, in an embedded expression and in an operand alike. But a single value is returned as
it is, of whatever kind. -/
theorem gives_checked {operator : Operator} {kind : Kind}
    (typed : operator.operandKind? = some kind) (values : List Value) :
    ∃ outcome, operator.Gives values outcome ∧
      (values.length ≠ 1 → kind.Checked values outcome) ∧ ∀ v, values = [v] → outcome = .ok v := by
  obtain ⟨operation, variadic, closed⟩ := exists_closed typed
  refine ⟨_, gives_reduce variadic values, closed.reduce, ?_⟩
  rintro v rfl
  rfl

theorem gives_checked_sub :
    sub.operandKind? = some .number ∧
      (∃ failure, sub.Gives [.int 5, .int 7, .string "x"] (.error failure)) ∧
      sub.Gives [.string "x"] (.ok (.string "x")) := by
  have typed : sub.operandKind? = some .number := rfl
  refine ⟨typed, ?_, ?_⟩
  · obtain ⟨outcome, gives, checked, -⟩ := gives_checked typed [.int 5, .int 7, .string "x"]
    obtain ⟨failure, rfl⟩ := (checked (by decide)).refused (v := .string "x") (by simp) (by decide)
    exact ⟨failure, gives⟩
  · obtain ⟨outcome, gives, -, alone⟩ := gives_checked typed [.string "x"]
    rwa [alone _ rfl] at gives

/-- A single text passes as an integer. -/
theorem not_checked_bitAnd :
    ¬ ∀ operator kind, operandKind? operator = some kind →
      ∀ values outcome, operator.Gives values outcome → kind.Checked values outcome := by
  intro checked
  have gives : bitAnd.Gives [.string "x"] (.ok (.string "x")) := gives_reduce rfl [.string "x"]
  obtain ⟨failure, fails⟩ :=
    (checked bitAnd .int rfl _ _ gives).refused List.mem_cons_self (by decide)
  cases fails

end Script.Operator

end DialogueEngine
