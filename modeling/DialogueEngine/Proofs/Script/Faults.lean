import DialogueEngine.Proofs.Script.Operand

/-!
# Failures of expressions

An expression and the operand that it stands for fail alike where no call is at fault twice. Where
a number of arguments is refused while one of them fails as well, or a key fails behind one that
cannot be followed, the operand fails for what comes first and the expression for the argument.
-/

namespace DialogueEngine.Engine

open Script Script.Node

variable {σ : Type} {e : Engine σ}

/-- The prelude looks at arguments in turn, and so the operand of an expression comes to the same
result, failures included, if no call is at fault twice. -/
theorem evaluate_operand_inTurn (binds : e.BindsPrelude) (node : Node) :
    (∃ enough, ∀ fuel, enough ≤ fuel →
      e.evaluate fuel node.operand e.world = some (node.inTurn e.scope, e.world)) ∧
    (node.Orderly e.scope → node.inTurn e.scope = node.evaluate e.scope) := by
  obtain ⟨enough, evaluated⟩ := yields_operand binds node
  exact ⟨⟨enough, fun fuel le => evaluate_mono le evaluated⟩, Orderly.inTurn_eq⟩

/-- The variable has no property. -/
def misfit : Node := .call .get [.reactive "count", .literal (.string "unit")]

theorem evaluate_operand_inTurn_misfit :
    counting.BindsPrelude ∧ misfit.Orderly counting.scope ∧
      (∃ enough, ∀ fuel, enough ≤ fuel → counting.evaluate fuel misfit.operand counting.world =
        some (.error ⟨.typeMismatch .map .int, none⟩, counting.world)) ∧
      misfit.evaluate counting.scope = .error ⟨.typeMismatch .map .int, none⟩ := by
  have binds : counting.BindsPrelude := bindsPrelude_withPrelude _
  have orderly : misfit.Orderly counting.scope :=
    ⟨⟨trivial, trivial, trivial⟩,
      Operator.orderly_of_succeed ⟨[.int 20, .string "unit"], rfl⟩⟩
  obtain ⟨evaluated, same⟩ := evaluate_operand_inTurn binds misfit
  have value : misfit.evaluate counting.scope = .error ⟨.typeMismatch .map .int, none⟩ := rfl
  rw [same orderly, value] at evaluated
  exact ⟨binds, orderly, evaluated, value⟩

/-- Too many arguments, one of which fails. -/
def overloaded : Node :=
  .call .abs [.call .div [.literal (.int 1), .literal (.int 0)], .literal (.int 2)]

/-- An expression and its operand need not fail for the same reason. -/
theorem not_fails_alike :
    ¬∀ (e : Engine Unit) (node : Node) (operandFailure failure : Failure), e.BindsPrelude →
      (∃ enough, ∀ fuel, enough ≤ fuel →
        e.evaluate fuel node.operand e.world = some (.error operandFailure, e.world)) →
      node.evaluate e.scope = .error failure → operandFailure.cause = failure.cause := by
  intro alike
  have binds : counting.BindsPrelude := bindsPrelude_withPrelude _
  have first : overloaded.inTurn counting.scope = .error ⟨.arityMismatch "1 for ABS" 2, none⟩ := rfl
  have second : overloaded.evaluate counting.scope = .error ⟨.divisionByZero, none⟩ := rfl
  obtain ⟨enough, evaluated⟩ := yields_operand binds overloaded
  rw [first] at evaluated
  have same := alike counting overloaded _ _ binds
    ⟨enough, fun fuel le => evaluate_mono le evaluated⟩ second
  cases same

end DialogueEngine.Engine
