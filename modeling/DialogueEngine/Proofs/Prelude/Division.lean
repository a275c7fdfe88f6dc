import DialogueEngine.Proofs.Prelude.Variadic
import DialogueEngine.Proofs.Script.ReadBack

/-!
# Quotient and remainder

Division of integers and its remainder belong together. Both refuse a zero divisor and nothing else,
and the quotient times the divisor plus the remainder is the dividend again, although each of these
operations may wrap around.
-/

namespace DialogueEngine

theorem Int64.div_mul_add_rem (a b : Int64) : a / b * b + a % b = a := by
  apply Int64.toInt_inj.mp
  calc (a / b * b + a % b).toInt
      = ((((a.toInt.tdiv b.toInt).bmod (2 ^ 64) * b.toInt).bmod (2 ^ 64)) +
          a.toInt.tmod b.toInt).bmod (2 ^ 64) := by
        rw [Int64.toInt_add, Int64.toInt_mul, Int64.toInt_div, Int64.toInt_mod]
    _ = (a.toInt.tdiv b.toInt * b.toInt + a.toInt.tmod b.toInt).bmod (2 ^ 64) := by
        rw [Int.bmod_mul_bmod, Int.bmod_add_bmod]
    _ = a.toInt.bmod (2 ^ 64) := by rw [Int.tdiv_mul_add_tmod]
    _ = a.toInt := Int64.toInt_bmod a

theorem Int64.rem_eq_zero_or_sign_eq (a b : Int64) :
    a % b = 0 ∨ (a % b).toInt.sign = a.toInt.sign := by
  rw [Int64.toInt_mod, Int.sign_tmod]
  split
  · next divides =>
    refine .inl (Int64.toInt_inj.mp ?_)
    rw [Int64.toInt_mod, Int.tmod_eq_zero_of_dvd divides]
    rfl
  · exact .inr rfl

theorem Int64.natAbs_rem_lt (a : Int64) {b : Int64} (nonzero : b ≠ 0) :
    (a % b).toInt.natAbs < b.toInt.natAbs := by
  have positive : 0 < b.toInt.natAbs := by
    refine Int.natAbs_pos.mpr fun zero => nonzero ?_
    exact Int64.toInt_inj.mp zero
  rw [Int64.toInt_mod, Int.natAbs_tmod]
  exact Nat.mod_lt _ positive

namespace Value

theorem reduce_pair (name : String) (op : Value → Value → Except Failure Value) (a b : Value) :
    reduce name op [a, b] = op a b := by
  rw [reduce, List.foldlM_cons]
  exact bind_pure _

theorem onDivisor_int (onInts : Int64 → Int64 → Int64) (onFloats : Double → Double → Double)
    (a : Int64) {b : Int64} (nonzero : b ≠ 0) :
    onDivisor onInts onFloats (int a) (int b) = .ok (int (onInts a b)) := by
  rw [onDivisor, if_neg (by simp [isZero, nonzero])]
  rfl

end Value

namespace Script

open Operand (Renders RendersArguments renders_literal rendersArguments_nil)

/-- An expression has a value wherever it is evaluated: in any scope, as an operand of an engine
with the prelude, and as the text that is written for it. -/
structure Node.Denotes (node : Node) (value : Value) : Prop where
  embedded (scope : Scope) : node.evaluate scope = .ok value
  structured {σ : Type} {e : Engine σ} (binds : e.BindsPrelude) :
    ∃ enough, ∀ fuel, enough ≤ fuel →
      e.evaluate fuel node.operand e.world = some (.ok value, e.world)
  written (scope : Scope) : Script.evaluate node.operand.text scope = .ok value

theorem Node.denotes_of_renders {node : Node} {value : Value}
    (evaluated : ∀ scope, node.evaluate scope = .ok value)
    (renders : Renders node.operand node) (shallow : node.operand.nesting ≤ maxNesting) :
    node.Denotes value where
  embedded := evaluated
  structured {σ e} binds := by
    obtain ⟨enough, result, evaluates, alike⟩ := Engine.evaluates_operand binds node
    obtain rfl : result = .ok value := (alike value).mpr (evaluated e.scope)
    exact ⟨enough, fun fuel le => Engine.evaluate_mono le evaluates⟩
  written scope := by
    rw [Script.evaluate, renders.parse_eq shallow]
    exact evaluated scope

/-- The dividend, put together again from the quotient and the remainder. -/
def recombination (a b : Int64) : Node :=
  let dividend : Node := .literal (.int a)
  let divisor : Node := .literal (.int b)
  .call .add [.call .mul [.call .div [dividend, divisor], divisor], .call .rem [dividend, divisor]]

theorem renders_recombination (a b : Int64) :
    Renders (recombination a b).operand (recombination a b) := by
  have literal (i : Int64) : Renders (.literal (.int i)) (.literal (.int i)) :=
    renders_literal trivial
  have pair {left right : Operand} {first second : Node} (one : Renders left first)
      (other : Renders right second) : RendersArguments [left, right] [first, second] :=
    one.cons (other.cons rendersArguments_nil)
  have quotient := (pair (literal a) (literal b)).call .div
  have product := (pair quotient (literal b)).call .mul
  exact (pair product ((pair (literal a) (literal b)).call .rem)).call .add

namespace Operator

variable {operator : Operator} {a b : Int64}

theorem gives_pair {operation : Value → Value → Except Failure Value} {v w : Value}
    {outcome : Except Failure Value} (variadic : operator.operation? = some operation)
    (result : operation v w = outcome) : operator.Gives [v, w] outcome := by
  rw [← result, ← Value.reduce_pair operator.symbol operation v w]
  exact gives_reduce variadic [v, w]

theorem Gives.evaluate_pair {v w : Value} {outcome : Except Failure Value} {scope : Scope}
    {left right : Node} (gives : operator.Gives [v, w] outcome)
    (first : left.evaluate scope = .ok v) (second : right.evaluate scope = .ok w) :
    (Node.call operator [left, right]).evaluate scope = outcome := by
  refine gives.embedded ?_
  simp only [Node.evaluateAll, first, second]
  rfl

theorem gives_div (a : Int64) (nonzero : b ≠ 0) :
    div.Gives [.int a, .int b] (.ok (.int (a / b))) :=
  gives_pair rfl (Value.onDivisor_int (· / ·) Double.div a nonzero)

theorem gives_rem (a : Int64) (nonzero : b ≠ 0) :
    rem.Gives [.int a, .int b] (.ok (.int (a % b))) :=
  gives_pair rfl (Value.onDivisor_int (· % ·) Double.rem a nonzero)

theorem evaluate_recombination (a : Int64) (nonzero : b ≠ 0) (scope : Scope) :
    (recombination a b).evaluate scope = .ok (.int a) := by
  have literal (i : Int64) : (Node.literal (.int i)).evaluate scope = .ok (.int i) := by
    rw [Node.evaluate]
  have quotient := (gives_div a nonzero).evaluate_pair (literal a) (literal b)
  have multiplies : mul.Gives [.int (a / b), .int b] (.ok (.int (a / b * b))) := gives_pair rfl rfl
  have product := multiplies.evaluate_pair quotient (literal b)
  have remainder := (gives_rem a nonzero).evaluate_pair (literal a) (literal b)
  have adds : add.Gives [.int (a / b * b), .int (a % b)] (.ok (.int (a / b * b + a % b))) :=
    gives_pair rfl rfl
  rw [Int64.div_mul_add_rem] at adds
  exact adds.evaluate_pair product remainder

/-- Division and remainder refuse a zero divisor. For any other they have results, from which the
dividend is got back; the remainder has the sign of the dividend and is smaller than the divisor.
The one quotient that is out of range wraps around to the dividend. -/
theorem div_fits_rem (a b : Int64) :
    (b = 0 → div.Gives [.int a, .int b] (.error ⟨.divisionByZero, none⟩) ∧
      rem.Gives [.int a, .int b] (.error ⟨.divisionByZero, none⟩)) ∧
    (b ≠ 0 → ∃ quotient remainder : Int64,
      div.Gives [.int a, .int b] (.ok (.int quotient)) ∧
      rem.Gives [.int a, .int b] (.ok (.int remainder)) ∧
      (recombination a b).Denotes (.int a) ∧
      (remainder = 0 ∨ remainder.toInt.sign = a.toInt.sign) ∧
      remainder.toInt.natAbs < b.toInt.natAbs ∧
      (a = Int64.minValue → b = -1 → quotient = Int64.minValue ∧ remainder = 0)) := by
  constructor
  · rintro rfl
    exact ⟨gives_pair rfl rfl, gives_pair rfl rfl⟩
  · intro nonzero
    have denotes : (recombination a b).Denotes (.int a) :=
      Node.denotes_of_renders (evaluate_recombination a nonzero) (renders_recombination a b)
        (Nat.le_of_ble_eq_true rfl)
    refine ⟨a / b, a % b, gives_div a nonzero, gives_rem a nonzero, denotes,
      Int64.rem_eq_zero_or_sign_eq a b, Int64.natAbs_rem_lt a nonzero, ?_⟩
    rintro rfl rfl
    exact ⟨by decide, by decide⟩

/-- The quotient that is out of range. -/
theorem div_fits_rem_minValue :
    (-1 : Int64) ≠ 0 ∧ div.Gives [.int Int64.minValue, .int (-1)] (.ok (.int Int64.minValue)) ∧
      rem.Gives [.int Int64.minValue, .int (-1)] (.ok (.int 0)) ∧
      (recombination Int64.minValue (-1)).operand.text =
        "(+ (* (/ -9223372036854775808 -1) -1) (% -9223372036854775808 -1))" ∧
      (recombination Int64.minValue (-1)).Denotes (.int Int64.minValue) := by
  have nonzero : (-1 : Int64) ≠ 0 := by decide
  obtain ⟨quotient, remainder, divides, leaves, denotes, -, -, least⟩ :=
    (div_fits_rem Int64.minValue (-1)).2 nonzero
  obtain ⟨rfl, rfl⟩ := least rfl rfl
  exact ⟨nonzero, divides, leaves, by decide +kernel, denotes⟩

end Operator

end Script

end DialogueEngine
