import DialogueEngine.Proofs.Prelude.ShortCircuit

/-!
# Chains of properties

Property access with many keys is property access with the first of them, on whose value the others
are followed. It makes no difference for the value or the failure, nor for what is evaluated on the
way: keys and lookups alternate in the same order, and the first that fails is the same one.
-/

namespace DialogueEngine

open DialogueEngine.Computation Prelude

variable {σ : Type}

/-- Property access: follows keys from a base. -/
def Operand.chain (base : Operand) (keys : List Operand) : Operand := .call "." (base :: keys)

namespace Computation

/-- Goes on with a value, and fails where there is none. -/
def onValue (next : Value → Computation σ) : Except Failure Value → Computation σ
  | .ok v => next v
  | .error failure => fail failure

/-- Goes on with the result of a computation. -/
def andThen (computation : Computation σ) (next : Except Failure Value → Computation σ) :
    Computation σ :=
  match computation with
  | .done result => next result
  | .evaluate operand rest => .evaluate operand fun result => (rest result).andThen next
  | .react reaction rest => .react reaction (rest.andThen next)
  | .consult rest => .consult fun host => (rest host).andThen next
  | .observe rest => .observe fun outlook => (rest outlook).andThen next

theorem value_eq (operand : Operand) (next : Value → Computation σ) :
    value operand next = .evaluate operand (onValue next) := rfl

/-- To go on with the value that a value leads to. -/
theorem value_andThen (operand : Operand) (first next : Value → Computation σ) :
    (value operand first).andThen (onValue next) =
      value operand fun v => (first v).andThen (onValue next) := by
  rw [value_eq, value_eq, andThen]
  congr 1
  funext result
  cases result <;> rfl

end Computation

namespace Prelude

theorem follow_append (base : Value) (keys more : List Operand) :
    (follow base (keys ++ more) : Computation σ) =
      (follow base keys).andThen (onValue fun v => follow v more) := by
  induction keys generalizing base with
  | nil => rfl
  | cons key keys ih =>
    rw [List.cons_append, follow, follow, value_andThen]
    congr 1
    funext k
    cases base.property k with
    | ok next => exact ih next
    | error failure => rfl

theorem get_append (base : Operand) (keys more : List Operand) :
    (get (base :: (keys ++ more)) : Computation σ) =
      (get (base :: keys)).andThen (onValue fun v => follow v more) := by
  rw [get, get, value_andThen]
  congr 1
  funext b
  exact follow_append b keys more

end Prelude

namespace Engine

variable {e : Engine σ} {name : String} {function : HostFunction σ} {args visited : List Operand}
  {computation : Computation σ} {next : Except Failure Value → Computation σ}
  {result : Except Failure Value} {w after : World σ}

/-- What goes on with a result visits what leads to the result and then the rest. -/
theorem computesTo_andThen_iff :
    e.ComputesTo (computation.andThen next) w visited result after ↔
      ∃ outcome first more middle, e.ComputesTo computation w first outcome middle ∧
        e.ComputesTo (next outcome) middle more result after ∧ visited = first ++ more := by
  induction computation generalizing w visited with
  | done outcome =>
    constructor
    · intro computes
      exact ⟨outcome, [], visited, w, .done _ _, computes, rfl⟩
    · rintro ⟨_, _, _, _, done, goesOn, rfl⟩
      obtain ⟨rfl, rfl, rfl⟩ := computesTo_done_iff.mp done
      exact goesOn
  | evaluate operand rest ih =>
    constructor
    · rintro (_ | ⟨evaluates, computes⟩)
      obtain ⟨outcome, first, more, middle, begins, goesOn, rfl⟩ := (ih _).mp computes
      exact ⟨outcome, _, more, middle, .evaluate evaluates begins, goesOn,
        (List.append_assoc _ _ _).symm⟩
    · rintro ⟨outcome, _, more, middle, computes, goesOn, rfl⟩
      rcases computes with _ | ⟨evaluates, begins⟩
      rw [List.append_assoc]
      exact .evaluate evaluates ((ih _).mpr ⟨outcome, _, more, middle, begins, goesOn, rfl⟩)
  | react reaction rest ih =>
    constructor
    · rintro (_ | _ | ⟨ran, computes⟩)
      obtain ⟨outcome, first, more, middle, begins, goesOn, split⟩ := ih.mp computes
      exact ⟨outcome, first, more, middle, .react ran begins, goesOn, split⟩
    · rintro ⟨outcome, first, more, middle, computes, goesOn, split⟩
      rcases computes with _ | _ | ⟨ran, begins⟩
      exact .react ran (ih.mpr ⟨outcome, first, more, middle, begins, goesOn, split⟩)
  | consult rest ih =>
    constructor
    · rintro (_ | _ | _ | computes)
      obtain ⟨outcome, first, more, middle, begins, goesOn, split⟩ := (ih _).mp computes
      exact ⟨outcome, first, more, middle, .consult begins, goesOn, split⟩
    · rintro ⟨outcome, first, more, middle, computes, goesOn, split⟩
      rcases computes with _ | _ | _ | begins
      exact .consult ((ih _).mpr ⟨outcome, first, more, middle, begins, goesOn, split⟩)
  | observe rest ih =>
    constructor
    · rintro (_ | _ | _ | _ | computes)
      obtain ⟨outcome, first, more, middle, begins, goesOn, split⟩ := (ih _).mp computes
      exact ⟨outcome, first, more, middle, .observe begins, goesOn, split⟩
    · rintro ⟨outcome, first, more, middle, computes, goesOn, split⟩
      rcases computes with _ | _ | _ | _ | begins
      exact .observe ((ih _).mpr ⟨outcome, first, more, middle, begins, goesOn, split⟩)

/-- To go on with the result of a call is to go on with what its function computes. -/
theorem computesTo_evaluate_call_iff (bound : e.functions.find? name = some function) :
    e.ComputesTo (.evaluate (.call name args) next) w visited result after ↔
      ∃ served, visited = .call name args :: served ∧
        e.ComputesTo ((function args).andThen next) w served result after := by
  constructor
  · rintro (_ | ⟨evaluates, goesOn⟩)
    obtain ⟨first, rfl, computes⟩ := (evaluatesTo_call_iff bound).mp evaluates
    exact ⟨_, rfl, computesTo_andThen_iff.mpr ⟨_, first, _, _, computes, goesOn, rfl⟩⟩
  · rintro ⟨served, rfl, computes⟩
    obtain ⟨outcome, first, more, middle, begins, goesOn, rfl⟩ :=
      computesTo_andThen_iff.mp computes
    exact .evaluate (.call bound begins) goesOn

section

variable (bound : e.functions.find? "." = some Prelude.get) (base : Operand)
  (keys more : List Operand)

include bound

theorem evaluatesTo_chain_iff :
    e.EvaluatesTo (base.chain keys) w visited result after ↔
      ∃ served, visited = base.chain keys :: served ∧
        e.ComputesTo (Prelude.get (base :: keys)) w served result after :=
  evaluatesTo_call_iff bound

/-- A chain that goes on from another one visits that one first, and then what the two would visit
as one chain. -/
theorem evaluatesTo_chain_chain_iff :
    e.EvaluatesTo ((base.chain keys).chain more) w visited result after ↔
      ∃ served, visited = (base.chain keys).chain more :: base.chain keys :: served ∧
        e.ComputesTo (Prelude.get (base :: (keys ++ more))) w served result after := by
  rw [evaluatesTo_chain_iff bound, get_append]
  constructor
  · rintro ⟨outer, rfl, computes⟩
    obtain ⟨served, rfl, goesOn⟩ := (computesTo_evaluate_call_iff bound).mp computes
    exact ⟨served, rfl, goesOn⟩
  · rintro ⟨served, rfl, computes⟩
    exact ⟨_, rfl, (computesTo_evaluate_call_iff bound).mpr ⟨served, rfl, computes⟩⟩

end

/-- Property chains compose. Keys that are followed from the value of a chain are followed as if
they stood in that chain themselves: it comes to the same value or failure, and to the same world.
Apart from the property accesses themselves the same operands are visited in the same order, so the
same host functions are called. -/
theorem chains_compose (bound : e.functions.find? "." = some Prelude.get) (base : Operand)
    (keys more : List Operand) (w : World σ) (result : Except Failure Value) (after : World σ) :
    ((∃ fuel, e.evaluate fuel (base.chain (keys ++ more)) w = some (result, after)) ↔
      ∃ fuel, e.evaluate fuel ((base.chain keys).chain more) w = some (result, after)) ∧
    (∀ visited, e.EvaluatesTo (base.chain (keys ++ more)) w visited result after ↔
      ∃ served, visited = base.chain (keys ++ more) :: served ∧
        e.EvaluatesTo ((base.chain keys).chain more) w
          ((base.chain keys).chain more :: base.chain keys :: served) result after) ∧
    ∀ visited, e.EvaluatesTo ((base.chain keys).chain more) w visited result after ↔
      ∃ served, visited = (base.chain keys).chain more :: base.chain keys :: served ∧
        e.EvaluatesTo (base.chain (keys ++ more)) w (base.chain (keys ++ more) :: served) result
          after := by
  have whole (visited : List Operand) :
      e.EvaluatesTo (base.chain (keys ++ more)) w visited result after ↔
        ∃ served, visited = base.chain (keys ++ more) :: served ∧
          e.ComputesTo (Prelude.get (base :: (keys ++ more))) w served result after :=
    evaluatesTo_chain_iff bound base (keys ++ more)
  have split (visited : List Operand) :
      e.EvaluatesTo ((base.chain keys).chain more) w visited result after ↔
        ∃ served, visited = (base.chain keys).chain more :: base.chain keys :: served ∧
          e.ComputesTo (Prelude.get (base :: (keys ++ more))) w served result after :=
    evaluatesTo_chain_chain_iff bound base keys more
  refine ⟨?_, ?_, ?_⟩
  · rw [exists_evaluate_iff, exists_evaluate_iff]
    simp only [whole, split]
    constructor
    · rintro ⟨_, served, rfl, computes⟩
      exact ⟨_, served, rfl, computes⟩
    · rintro ⟨_, served, rfl, computes⟩
      exact ⟨_, served, rfl, computes⟩
  · intro visited
    simp only [whole, split, List.cons.injEq, true_and, exists_eq_left']
  · intro visited
    simp only [whole, split, List.cons.injEq, true_and, exists_eq_left']

/-- A list under a key that is computed, and behind it an index that leads nowhere. -/
def lostKeys : Operand :=
  ((Operand.literal (.map [(.bool true, .list [.int 5])])).chain [.call "tick" []]).chain
    [.literal (.int 3), .call "tick" []]

theorem find?_get_ticking : ticking.functions.find? "." = some Prelude.get := by
  have binds : ((Engine.new {} 0).withPrelude : Engine Nat).BindsPrelude :=
    bindsPrelude_withPrelude _
  rw [ticking, registerFunction, NameTable.find?_insert, if_neg (by decide)]
  exact binds.find? rfl

/-- What is not there reads as `nil`, and only the key behind it fails, once it is evaluated. -/
theorem chains_compose_ticking :
    ticking.functions.find? "." = some Prelude.get ∧
    ∃ fuel, ticking.evaluate fuel lostKeys ticking.world =
      some (.error ⟨.typeMismatch .map .nil, none⟩,
        (ticking.world.modify (· + 1)).modify (· + 1)) := by
  refine ⟨find?_get_ticking, ?_⟩
  exact (chains_compose find?_get_ticking _ _ _ _ _ _).1.mp ⟨12, rfl⟩

end Engine

end DialogueEngine
