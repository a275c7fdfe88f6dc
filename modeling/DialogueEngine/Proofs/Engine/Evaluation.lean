import DialogueEngine.Prelude
import DialogueEngine.Proofs.Engine.Fuel

/-!
# The course of an evaluation

An evaluation as a derivation without fuel. The derivation lists the operands that are visited, each
when its evaluation begins: first the operand itself and then, if it calls a host function, what the
function has evaluated, in order. So the list tells which functions are called, how often and on
whose behalf. An operand has no two such derivations with different outcomes.
-/

namespace DialogueEngine

namespace Engine

variable {σ : Type}

mutual

/-- An operand is evaluated in a world: the operands that are visited, the result, and the world
that is left. -/
inductive EvaluatesTo (e : Engine σ) :
    Operand → World σ → List Operand → Except Failure Value → World σ → Prop where
  | literal (value : Value) (w : World σ) :
      EvaluatesTo e (.literal value) w [.literal value] (.ok value) w
  | unknown {name : String} (unbound : e.functions.find? name = none) (args : List Operand)
      (w : World σ) :
      EvaluatesTo e (.call name args) w [.call name args] (.error ⟨.unknownFunction name, none⟩) w
  | call {name : String} {function : HostFunction σ} {args visited : List Operand}
      {result : Except Failure Value} {w after : World σ}
      (bound : e.functions.find? name = some function)
      (computes : ComputesTo e (function args) w visited result after) :
      EvaluatesTo e (.call name args) w (.call name args :: visited) result after

/-- A computation is carried out: the operands that are visited on its behalf, the result, and the
world that is left. -/
inductive ComputesTo (e : Engine σ) :
    Computation σ → World σ → List Operand → Except Failure Value → World σ → Prop where
  | done (result : Except Failure Value) (w : World σ) : ComputesTo e (.done result) w [] result w
  | evaluate {operand : Operand} {next : Except Failure Value → Computation σ}
      {visited more : List Operand} {outcome result : Except Failure Value}
      {w middle after : World σ} (evaluates : EvaluatesTo e operand w visited outcome middle)
      (rest : ComputesTo e (next outcome) middle more result after) :
      ComputesTo e (.evaluate operand next) w (visited ++ more) result after
  | react {fuel : Nat} {reaction : Reaction σ} {next : Computation σ} {visited : List Operand}
      {result : Except Failure Value} {w middle after : World σ}
      (ran : reaction.run fuel w = some middle)
      (rest : ComputesTo e next middle visited result after) :
      ComputesTo e (.react reaction next) w visited result after
  | consult {next : σ → Computation σ} {visited : List Operand} {result : Except Failure Value}
      {w after : World σ} (rest : ComputesTo e (next w.host) w visited result after) :
      ComputesTo e (.consult next) w visited result after
  | observe {next : Outlook → Computation σ} {visited : List Operand}
      {result : Except Failure Value} {w after : World σ}
      (rest : ComputesTo e (next ({ e with world := w } : Engine σ).outlook) w visited result
        after) :
      ComputesTo e (.observe next) w visited result after

end

/-- Operands are evaluated one after the other, and all have values. -/
inductive EvaluateInOrder (e : Engine σ) :
    List Operand → World σ → List Operand → List Value → World σ → Prop where
  | nil (w : World σ) : EvaluateInOrder e [] w [] [] w
  | cons {operand : Operand} {operands visited more : List Operand} {value : Value}
      {values : List Value} {w middle after : World σ}
      (first : e.EvaluatesTo operand w visited (.ok value) middle)
      (rest : EvaluateInOrder e operands middle more values after) :
      EvaluateInOrder e (operand :: operands) w (visited ++ more) (value :: values) after

variable {e : Engine σ}

/-! ## Derivations and the function that recurses by fuel -/

mutual

theorem EvaluatesTo.exists_evaluate {operand : Operand} {visited : List Operand}
    {result : Except Failure Value} {w after : World σ} :
    e.EvaluatesTo operand w visited result after →
      ∃ fuel, e.evaluate fuel operand w = some (result, after)
  | .literal _ _ => ⟨1, rfl⟩
  | .unknown unbound _ _ => ⟨1, by rw [Engine.evaluate, unbound]⟩
  | .call bound computes => by
    obtain ⟨fuel, computed⟩ := computes.exists_compute
    refine ⟨fuel + 1, ?_⟩
    rw [Engine.evaluate, bound]
    exact computed

theorem ComputesTo.exists_compute {computation : Computation σ} {visited : List Operand}
    {result : Except Failure Value} {w after : World σ} :
    e.ComputesTo computation w visited result after →
      ∃ fuel, e.compute fuel computation w = some (result, after)
  | .done _ _ => ⟨1, rfl⟩
  | .evaluate evaluates rest => by
    obtain ⟨fuel, evaluated⟩ := evaluates.exists_evaluate
    obtain ⟨more, computed⟩ := rest.exists_compute
    refine ⟨max fuel more + 1, ?_⟩
    rw [Engine.compute, evaluate_mono (Nat.le_max_left fuel more) evaluated]
    exact compute_mono (Nat.le_max_right fuel more) computed
  | @ComputesTo.react _ _ fuel reaction _ _ _ _ _ _ ran rest => by
    obtain ⟨more, computed⟩ := rest.exists_compute
    have runs := eq_some_of_fuel_le (reaction.run · _) Reaction.run_succ
      (Nat.le_max_left fuel more) ran
    refine ⟨max fuel more + 1, ?_⟩
    rw [Engine.compute, runs]
    exact compute_mono (Nat.le_max_right fuel more) computed
  | .consult rest | .observe rest => by
    obtain ⟨fuel, computed⟩ := rest.exists_compute
    exact ⟨fuel + 1, computed⟩

end

mutual

theorem exists_evaluatesTo : ∀ {fuel : Nat} {operand : Operand} {result : Except Failure Value}
    {w after : World σ}, e.evaluate fuel operand w = some (result, after) →
      ∃ visited, e.EvaluatesTo operand w visited result after
  | 0, _, _, _, _, evaluated => by simp [evaluate] at evaluated
  | fuel + 1, operand, result, w, after, evaluated => by
    cases operand with
    | literal value =>
      cases evaluated
      exact ⟨_, .literal value w⟩
    | call name args =>
      rw [evaluate] at evaluated
      cases found : e.functions.find? name with
      | none =>
        simp only [found] at evaluated
        cases evaluated
        exact ⟨_, .unknown found args w⟩
      | some function =>
        simp only [found] at evaluated
        obtain ⟨visited, computes⟩ := exists_computesTo evaluated
        exact ⟨_, .call found computes⟩

theorem exists_computesTo : ∀ {fuel : Nat} {computation : Computation σ}
    {result : Except Failure Value} {w after : World σ},
    e.compute fuel computation w = some (result, after) →
      ∃ visited, e.ComputesTo computation w visited result after
  | 0, _, _, _, _, computed => by simp [compute] at computed
  | fuel + 1, computation, result, w, after, computed => by
    cases computation with
    | done =>
      cases computed
      exact ⟨_, .done _ _⟩
    | evaluate operand next =>
      rw [compute] at computed
      cases evaluated : e.evaluate fuel operand w with
      | none => simp [evaluated] at computed
      | some pair =>
        simp only [evaluated] at computed
        obtain ⟨visited, evaluates⟩ := exists_evaluatesTo evaluated
        obtain ⟨more, rest⟩ := exists_computesTo computed
        exact ⟨_, .evaluate evaluates rest⟩
    | react reaction next =>
      rw [compute] at computed
      cases ran : reaction.run fuel w with
      | none => simp [ran] at computed
      | some middle =>
        simp only [ran] at computed
        obtain ⟨visited, rest⟩ := exists_computesTo computed
        exact ⟨visited, .react ran rest⟩
    | consult next =>
      rw [compute] at computed
      obtain ⟨visited, rest⟩ := exists_computesTo computed
      exact ⟨visited, .consult rest⟩
    | observe next =>
      rw [compute] at computed
      obtain ⟨visited, rest⟩ := exists_computesTo computed
      exact ⟨visited, .observe rest⟩

end

/-- Evaluation comes to what a derivation says. -/
theorem exists_evaluate_iff {operand : Operand} {result : Except Failure Value}
    {w after : World σ} :
    (∃ fuel, e.evaluate fuel operand w = some (result, after)) ↔
      ∃ visited, e.EvaluatesTo operand w visited result after := by
  constructor
  · rintro ⟨fuel, evaluated⟩
    exact exists_evaluatesTo evaluated
  · rintro ⟨visited, evaluates⟩
    exact evaluates.exists_evaluate

/-! ## Only one outcome -/

mutual

theorem EvaluatesTo.unique {operand : Operand} {visited : List Operand}
    {result : Except Failure Value} {w after : World σ} :
    e.EvaluatesTo operand w visited result after →
      ∀ ⦃others other last⦄, e.EvaluatesTo operand w others other last →
        others = visited ∧ other = result ∧ last = after
  | .literal _ _, _, _, _, second => by
    cases second
    exact ⟨rfl, rfl, rfl⟩
  | .unknown unbound _ _, _, _, _, second => by
    cases second with
    | unknown => exact ⟨rfl, rfl, rfl⟩
    | call bound => cases unbound.symm.trans bound
  | .call bound computes, _, _, _, second => by
    have only := computes.unique
    cases second with
    | unknown unbound => cases unbound.symm.trans bound
    | call found again =>
      cases bound.symm.trans found
      obtain ⟨rfl, rfl, rfl⟩ := only again
      exact ⟨rfl, rfl, rfl⟩

theorem ComputesTo.unique {computation : Computation σ} {visited : List Operand}
    {result : Except Failure Value} {w after : World σ} :
    e.ComputesTo computation w visited result after →
      ∀ ⦃others other last⦄, e.ComputesTo computation w others other last →
        others = visited ∧ other = result ∧ last = after
  | .done _ _, _, _, _, second => by
    cases second
    exact ⟨rfl, rfl, rfl⟩
  | .evaluate evaluates rest, _, _, _, second => by
    have first := evaluates.unique
    have only := rest.unique
    cases second with
    | evaluate again others =>
      obtain ⟨rfl, rfl, rfl⟩ := first again
      obtain ⟨rfl, rfl, rfl⟩ := only others
      exact ⟨rfl, rfl, rfl⟩
  | @ComputesTo.react _ _ _ reaction _ _ _ _ _ _ ran rest, _, _, _, second => by
    have only := rest.unique
    cases second with
    | react again others =>
      cases eq_of_fuel (reaction.run · _) Reaction.run_succ ran again
      exact only others
  | .consult rest, _, _, _, second => by
    have only := rest.unique
    cases second with
    | consult others => exact only others
  | .observe rest, _, _, _, second => by
    have only := rest.unique
    cases second with
    | observe others => exact only others

end

/-! ## Building blocks of host functions -/

@[simp]
theorem computesTo_done_iff {result other : Except Failure Value} {visited : List Operand}
    {w after : World σ} :
    e.ComputesTo (.done result) w visited other after ↔
      visited = [] ∧ other = result ∧ after = w := by
  constructor
  · rintro ⟨⟩
    exact ⟨rfl, rfl, rfl⟩
  · rintro ⟨rfl, rfl, rfl⟩
    exact .done _ _

theorem evaluatesTo_call_iff {name : String} {function : HostFunction σ}
    {args visited : List Operand} {result : Except Failure Value} {w after : World σ}
    (bound : e.functions.find? name = some function) :
    e.EvaluatesTo (.call name args) w visited result after ↔
      ∃ served, visited = .call name args :: served ∧
        e.ComputesTo (function args) w served result after := by
  constructor
  · intro evaluates
    cases evaluates with
    | unknown unbound => cases unbound.symm.trans bound
    | call found computes =>
      cases found.symm.trans bound
      exact ⟨_, rfl, computes⟩
  · rintro ⟨served, rfl, computes⟩
    exact .call bound computes

theorem EvaluatesTo.value {operand : Operand} {next : Value → Computation σ} {v : Value}
    {visited more : List Operand} {result : Except Failure Value} {w middle after : World σ}
    (evaluates : e.EvaluatesTo operand w visited (.ok v) middle)
    (rest : e.ComputesTo (next v) middle more result after) :
    e.ComputesTo (Computation.value operand next) w (visited ++ more) result after :=
  .evaluate evaluates rest

theorem EvaluatesTo.fails {operand : Operand} {next : Value → Computation σ} {failure : Failure}
    {visited : List Operand} {w after : World σ}
    (evaluates : e.EvaluatesTo operand w visited (.error failure) after) :
    e.ComputesTo (Computation.value operand next) w visited (.error failure) after := by
  have computes : e.ComputesTo (Computation.value operand next) w (visited ++ []) _ after :=
    .evaluate evaluates (.done _ _)
  rwa [List.append_nil] at computes

/-- A function that wants the value of an operand goes on with it, or fails if there is none. -/
theorem ComputesTo.of_value {operand : Operand} {next : Value → Computation σ}
    {visited : List Operand} {result : Except Failure Value} {w after : World σ}
    (computes : e.ComputesTo (Computation.value operand next) w visited result after) :
    (∃ failure, result = .error failure ∧ e.EvaluatesTo operand w visited result after) ∨
      ∃ v first more middle, e.EvaluatesTo operand w first (.ok v) middle ∧
        e.ComputesTo (next v) middle more result after ∧ visited = first ++ more := by
  cases computes with
  | @evaluate _ _ first more outcome _ _ middle _ evaluates rest =>
    cases outcome with
    | error failure =>
      obtain ⟨rfl, rfl, rfl⟩ := computesTo_done_iff.mp rest
      rw [List.append_nil]
      exact .inl ⟨failure, rfl, evaluates⟩
    | ok v => exact .inr ⟨v, first, more, middle, evaluates, rest, rfl⟩

/-- A function that wants the values of all its arguments goes on with them. -/
theorem EvaluateInOrder.values {operands visited more : List Operand} {values : List Value}
    {next : List Value → Computation σ} {result : Except Failure Value} {w middle after : World σ}
    (evaluate : e.EvaluateInOrder operands w visited values middle)
    (rest : e.ComputesTo (next values) middle more result after) :
    e.ComputesTo (Computation.values operands next) w (visited ++ more) result after := by
  induction evaluate generalizing next with
  | nil => exact rest
  | cons first _ ih =>
    rw [List.append_assoc]
    exact first.value (ih rest)

theorem evaluateInOrder_literals (values : List Value) (w : World σ) :
    e.EvaluateInOrder (values.map .literal) w (values.map .literal) values w := by
  induction values with
  | nil => exact .nil w
  | cons value values ih => exact .cons (.literal value w) ih

end Engine

end DialogueEngine
