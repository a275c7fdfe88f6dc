import DialogueEngine.Proofs.Prelude.Variadic
import Mathlib.Algebra.Ring.Int.Defs
import Mathlib.Algebra.Ring.Nat
import Mathlib.Data.List.TakeWhile

/-!
# Sums

Variadic addition in one formula. If one of the first two values is a text, the texts of all are
joined, whatever they are. Otherwise the values up to the first text have to be numbers: these are
added up, integers modulo 2^64, and the texts of the others are joined to the sum.
-/

namespace DialogueEngine

namespace Value

/-- Binary addition of numbers. With a float among them, both are doubles. -/
def plus : Value → Value → Value
  | int i, int j => int (i + j)
  | int i, float y => float (.add (.ofInt i.toInt) y)
  | float x, int j => float (.add x (.ofInt j.toInt))
  | float x, float y => float (.add x y)
  | a, _ => a

/-- Adds up numbers from the left. -/
def total : List Value → Value
  | [] => .int 0
  | first :: rest => rest.foldl plus first

/-- The texts of values, one after the other. -/
def texts (values : List Value) : String := String.join (values.map plainText)

/-- Adds up the values before the first text and joins those from there on to it, unless there is
something to add up that is no number. -/
def addThenJoin (before after : List Value) : Except Failure Value :=
  match before.find? (!·.isNumber) with
  | some v => .error ⟨.typeMismatch .number v.kind, none⟩
  | none =>
      .ok (if after.isEmpty then total before
        else .string ((total before).plainText ++ texts after))

/-- What addition makes of one or more values. -/
def sum : List Value → Except Failure Value
  | [v] => .ok v
  | values =>
      let before := values.takeWhile (!·.isString)
      let after := values.dropWhile (!·.isString)
      if before.length ≤ 1 then .ok (.string (texts values)) else addThenJoin before after

variable {a b : Value}

@[simp]
theorem texts_cons (a : Value) (rest : List Value) : texts (a :: rest) = a.plainText ++ texts rest :=
  String.join_cons

theorem isString_of_isNumber (number : a.isNumber = true) : a.isString = false := by
  cases a with
  | string => cases number
  | _ => rfl

theorem add_of_isString (text : a.isString = true ∨ b.isString = true) :
    add a b = .ok (.string (a.plainText ++ b.plainText)) := by
  rw [add, if_pos (by simpa using text)]

theorem add_of_isNumber (left : a.isNumber = true) (right : b.isNumber = true) :
    add a b = .ok (plus a b) := by
  cases a with
  | int | float =>
    cases b with
    | int | float => rfl
    | _ => cases right
  | _ => cases left

theorem isNumber_plus (left : a.isNumber = true) (right : b.isNumber = true) :
    (plus a b).isNumber = true := by
  cases a with
  | int | float =>
    cases b with
    | int | float => rfl
    | _ => cases right
  | _ => cases left

theorem onNumbers_of_nonNumber {onInts : Int64 → Int64 → Int64}
    {onFloats : Double → Double → Double} (other : a.isNumber = false ∨ b.isNumber = false) :
    onNumbers onInts onFloats a b = .error (notNumbers a b) := by
  cases a with
  | int | float =>
    cases b with
    | int | float => simp [isNumber] at other
    | _ => rfl
  | _ => rfl

theorem add_of_nonNumber (left : a.isString = false) (right : b.isString = false)
    (other : a.isNumber = false ∨ b.isNumber = false) : add a b = .error (notNumbers a b) := by
  rw [add, if_neg (by simp [left, right]), onNumbers_of_nonNumber other]

theorem foldlM_add_string (s : String) (rest : List Value) :
    rest.foldlM add (.string s) = .ok (.string (s ++ texts rest)) := by
  induction rest generalizing s with
  | nil =>
    simp only [List.foldlM_nil, texts, List.map_nil, String.join_nil, String.append_empty]
    rfl
  | cons b rest ih =>
    rw [List.foldlM_cons, add_of_isString (.inl rfl), plainText_string, texts_cons,
      ← String.append_assoc]
    exact ih (s ++ b.plainText)

theorem addThenJoin_plus (left : a.isNumber = true) (right : b.isNumber = true)
    (before after : List Value) :
    addThenJoin (plus a b :: before) after = addThenJoin (a :: b :: before) after := by
  simp [addThenJoin, total, left, right, isNumber_plus left right]

/-- Addition to a number goes on up to the first text, and from there on by joining. -/
theorem foldlM_add_number (number : a.isNumber = true) (rest : List Value) :
    rest.foldlM add a =
      addThenJoin (a :: rest.takeWhile (!·.isString)) (rest.dropWhile (!·.isString)) := by
  induction rest generalizing a with
  | nil =>
    simp [addThenJoin, total, number]
    rfl
  | cons b rest ih =>
    rw [List.foldlM_cons]
    cases text : b.isString with
    | true =>
      rw [add_of_isString (.inr text)]
      refine (foldlM_add_string _ rest).trans ?_
      simp [addThenJoin, total, number, text, String.append_assoc]
    | false =>
      cases right : b.isNumber with
      | true =>
        rw [add_of_isNumber number right]
        refine (ih (isNumber_plus number right)).trans ?_
        simp [addThenJoin_plus number right, text]
      | false =>
        rw [add_of_nonNumber (isString_of_isNumber number) text (.inr right)]
        simp [addThenJoin, notNumbers, nonNumberKind, number, text, right]
        rfl

/-- Folding addition over values is what the formula says. -/
theorem reduce_add {name : String} {values : List Value} (nonempty : values ≠ []) :
    reduce name add values = sum values := by
  match values with
  | [] => contradiction
  | [v] => rfl
  | first :: second :: rest =>
    rw [reduce, List.foldlM_cons]
    cases left : first.isString with
    | true =>
      rw [add_of_isString (.inl left)]
      refine (foldlM_add_string _ rest).trans ?_
      simp [sum, left, String.append_assoc]
    | false =>
      cases right : second.isString with
      | true =>
        rw [add_of_isString (.inr right)]
        refine (foldlM_add_string _ rest).trans ?_
        simp [sum, left, right, String.append_assoc]
      | false =>
        cases number : first.isNumber with
        | true =>
          rw [← List.foldlM_cons, foldlM_add_number number]
          simp [sum, left, right]
        | false =>
          rw [add_of_nonNumber left right (.inl number)]
          simp [sum, addThenJoin, notNumbers, nonNumberKind, left, right, number]
          rfl

theorem total_ints (i : Int64) (ints : List Int64) :
    total ((i :: ints).map .int) = .int (ints.foldl (· + ·) i) := by
  induction ints generalizing i with
  | nil => rfl
  | cons j ints ih => exact ih (i + j)

theorem toInt_foldl_add (i : Int64) (ints : List Int64) :
    (ints.foldl (· + ·) i).toInt = ((i :: ints).map Int64.toInt).sum.bmod (2 ^ 64) := by
  induction ints generalizing i with
  | nil => simp
  | cons j ints ih =>
    rw [List.foldl_cons, ih]
    simp only [List.map_cons, List.sum_cons, Int64.toInt_add, Int.bmod_add_bmod, Int.add_assoc]

/-- Numbers alone are added up. -/
theorem sum_of_numbers {values : List Value} (nonempty : values ≠ [])
    (numbers : ∀ v ∈ values, v.isNumber = true) : sum values = .ok (total values) := by
  have noTexts : ∀ v ∈ values, (!v.isString) = true := by
    intro v mem
    rw [isString_of_isNumber (numbers v mem), Bool.not_false]
  have before := List.takeWhile_eq_self_iff.mpr noTexts
  have after := List.dropWhile_eq_nil_iff.mpr noTexts
  have found : values.find? (!·.isNumber) = none := by simpa using numbers
  cases values with
  | nil => exact absurd rfl nonempty
  | cons first rest =>
    cases rest with
    | nil => rfl
    | cons second rest =>
      rw [sum, before, after]
      · simp [addThenJoin, found]
      · nofun

end Value

namespace Script.Operator

/-- Variadic addition, embedded or not, gives the sum; and that of integers is the sum modulo 2^64 in
the signed range. -/
theorem add_gives_sum {values : List Value} (nonempty : values ≠ []) :
    add.Gives values (Value.sum values) ∧
      ∀ ints : List Int64, values = ints.map .int → ∃ total : Int64,
        Value.sum values = .ok (.int total) ∧
          total.toInt = (ints.map Int64.toInt).sum.bmod (2 ^ 64) := by
  refine ⟨?_, ?_⟩
  · rw [← Value.reduce_add nonempty]
    exact gives_reduce rfl values
  · rintro ints rfl
    cases ints with
    | nil => contradiction
    | cons i ints =>
      refine ⟨ints.foldl (· + ·) i, ?_, Value.toInt_foldl_add i ints⟩
      rw [Value.sum_of_numbers nonempty, Value.total_ints]
      simp [Value.isNumber]

/-- Two numbers, and then a text. -/
def purse : List Value := [.int 1, .int 2, .string " gold", .nil]

theorem add_gives_sum_purse :
    purse ≠ [] ∧ add.Gives purse (.ok (.string "3 goldnil")) ∧
      ∀ w : World Unit, ∃ enough, ∀ fuel, enough ≤ fuel →
        (Engine.new {} ()).withPrelude.evaluate fuel (.call "+" (purse.map .literal)) w =
          some (.ok (.string "3 goldnil"), w) := by
  have nonempty : purse ≠ [] := nofun
  have gives : add.Gives purse (.ok (.string "3 goldnil")) := (add_gives_sum nonempty).1
  have bound : (Engine.new {} ()).withPrelude.functions.find? add.symbol =
      Prelude.all.lookup add.symbol := (Engine.bindsPrelude_withPrelude _).find? rfl
  refine ⟨nonempty, gives, fun w => ?_⟩
  exact gives.structured bound (Engine.evaluateInOrder_literals purse w)

end Script.Operator

end DialogueEngine
