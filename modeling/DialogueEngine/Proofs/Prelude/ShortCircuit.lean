import DialogueEngine.Proofs.Engine.Evaluation
import DialogueEngine.Proofs.Prelude.Registration

/-!
# Conjunctions and disjunctions

`and` and `or` evaluate their arguments in order up to the first one that decides, and give its
value or its failure. The arguments behind it are not visited, so it does not matter what they are.
-/

namespace DialogueEngine

open DialogueEngine.Computation Prelude

variable {σ : Type}

/-- The function that goes by a truth value: a conjunction is decided by what is false, a
disjunction by what is true. -/
def connective (deciding : Bool) : String := if deciding then "or" else "and"

/-- No argument is wanted after this result: it is a failure or has the deciding truth value. -/
def Decisive (deciding : Bool) (result : Except Failure Value) : Prop :=
  ∀ value, result = .ok value → value.isTruthy = deciding

namespace Engine

/-- `and` and `or` are bound to the functions of the prelude. -/
def BindsConnectives (e : Engine σ) : Prop :=
  ∀ deciding, e.functions.find? (connective deciding) =
    some (decided (connective deciding) deciding)

/-- Arguments are evaluated in order, each once, up to the first one that is decisive, or the
last one if none does; so many stand before it. Its result is the outcome. -/
inductive DecidedAt (e : Engine σ) (deciding : Bool) :
    List Operand → World σ → Nat → List Operand → Except Failure Value → World σ → Prop where
  | intro {before later earlier visited : List Operand} {operand : Operand} {values : List Value}
      {result : Except Failure Value} {w middle after : World σ}
      (passed : e.EvaluateInOrder before w earlier values middle)
      (undecided : ∀ value ∈ values, value.isTruthy ≠ deciding)
      (evaluates : e.EvaluatesTo operand middle visited result after)
      (last : later = [] ∨ Decisive deciding result) :
      DecidedAt e deciding (before ++ operand :: later) w before.length (earlier ++ visited) result
        after

variable {e : Engine σ} {deciding : Bool} {operand : Operand} {args visited later : List Operand}
  {result : Except Failure Value} {w middle after : World σ} {k : Nat}

theorem DecidedAt.head (evaluates : e.EvaluatesTo operand w visited result after)
    (last : later = [] ∨ Decisive deciding result) :
    e.DecidedAt deciding (operand :: later) w 0 visited result after :=
  .intro (.nil w) (List.forall_mem_nil _) evaluates last

theorem DecidedAt.cons {value : Value} {more : List Operand}
    (first : e.EvaluatesTo operand w visited (.ok value) middle)
    (undecided : value.isTruthy ≠ deciding)
    (rest : e.DecidedAt deciding args middle k more result after) :
    e.DecidedAt deciding (operand :: args) w (k + 1) (visited ++ more) result after := by
  obtain ⟨passed, others, evaluates, last⟩ := rest
  rw [← List.append_assoc]
  exact .intro (.cons first passed) (List.forall_mem_cons.mpr ⟨undecided, others⟩) evaluates last

/-- What comes behind the argument that is decisive can be replaced. -/
theorem DecidedAt.replace (decides : e.DecidedAt deciding args w k visited result after)
    (inside : k + 1 < args.length) (others : List Operand) :
    e.DecidedAt deciding (args.take (k + 1) ++ others) w k visited result after := by
  obtain ⟨passed, undecided, evaluates, none | decisive⟩ := decides
  · simp [none] at inside
  · rw [List.take_length_add_append, List.append_assoc]
    exact .intro passed undecided evaluates (.inr decisive)

/-- The last argument and one that is decisive end the evaluation. -/
theorem computesTo_valueUntil (evaluates : e.EvaluatesTo operand w visited result after)
    (last : later = [] ∨ Decisive deciding result) (earlier : Value) :
    e.ComputesTo (valueUntil deciding earlier (operand :: later)) w visited result after := by
  cases result with
  | error failure => exact evaluates.fails
  | ok value =>
    rw [← List.append_nil visited]
    refine evaluates.value ?_
    split
    · exact .done _ _
    · next undecided =>
      rcases last with rfl | decisive
      · exact .done _ _
      · exact absurd (decisive value rfl) undecided

theorem DecidedAt.computesTo (decides : e.DecidedAt deciding args w k visited result after)
    (earlier : Value) :
    e.ComputesTo (valueUntil deciding earlier args) w visited result after := by
  obtain ⟨passed, undecided, evaluates, last⟩ := decides
  induction passed generalizing earlier with
  | nil => exact computesTo_valueUntil evaluates last earlier
  | cons first _ ih =>
    obtain ⟨goesOn, others⟩ := List.forall_mem_cons.mp undecided
    rw [List.append_assoc]
    refine first.value ?_
    rw [if_neg goesOn]
    exact ih _ others evaluates

theorem exists_decidedAt (nonempty : args ≠ []) (earlier : Value)
    (computes : e.ComputesTo (valueUntil deciding earlier args) w visited result after) :
    ∃ k, e.DecidedAt deciding args w k visited result after := by
  induction args generalizing earlier w visited with
  | nil => exact absurd rfl nonempty
  | cons operand rest ih =>
    rcases computes.of_value with
      ⟨failure, rfl, evaluates⟩ | ⟨value, first, more, middle, evaluates, goesOn, rfl⟩
    · exact ⟨0, .head evaluates (.inr nofun)⟩
    · split at goesOn
      · next decided =>
        obtain ⟨rfl, rfl, rfl⟩ := computesTo_done_iff.mp goesOn
        rw [List.append_nil]
        refine ⟨0, .head evaluates (.inr ?_)⟩
        rintro _ ⟨⟩
        exact decided
      · next undecided =>
        rcases List.eq_nil_or_concat rest with rfl | ⟨_, _, rfl⟩
        · obtain ⟨rfl, rfl, rfl⟩ := computesTo_done_iff.mp goesOn
          rw [List.append_nil]
          exact ⟨0, .head evaluates (.inl rfl)⟩
        · obtain ⟨k, decides⟩ := ih (by simp) _ goesOn
          exact ⟨k + 1, decides.cons evaluates undecided⟩

/-- A call of `and` or `or` visits its arguments as far as they are needed. -/
theorem evaluatesTo_connective_iff (binds : e.BindsConnectives) (nonempty : args ≠ []) :
    e.EvaluatesTo (.call (connective deciding) args) w visited result after ↔
      ∃ k more, visited = .call (connective deciding) args :: more ∧
        e.DecidedAt deciding args w k more result after := by
  obtain ⟨first, rest, rfl⟩ := List.exists_cons_of_ne_nil nonempty
  rw [evaluatesTo_call_iff (binds deciding)]
  constructor
  · rintro ⟨more, rfl, computes⟩
    obtain ⟨k, decides⟩ := exists_decidedAt nonempty .nil computes
    exact ⟨k, more, rfl, decides⟩
  · rintro ⟨k, more, rfl, decides⟩
    exact ⟨more, rfl, decides.computesTo .nil⟩

/-- `and` and `or` evaluate their arguments up to the first that fails or has the deciding truth
value, or to the last one, in order and each once. That argument gives the result, and if there are
others behind it they could as well be any others, more or fewer. -/
theorem evaluates_until_decided (binds : e.BindsConnectives) (deciding : Bool)
    (nonempty : args ≠ []) (w : World σ) :
    (∀ result after,
      (∃ fuel, e.evaluate fuel (.call (connective deciding) args) w = some (result, after)) ↔
        ∃ k visited, e.DecidedAt deciding args w k visited result after) ∧
    (∀ visited result after,
      e.EvaluatesTo (.call (connective deciding) args) w visited result after ↔
        ∃ k more, visited = .call (connective deciding) args :: more ∧
          e.DecidedAt deciding args w k more result after) ∧
    ∀ k visited result after, e.DecidedAt deciding args w k visited result after →
      k + 1 < args.length → ∀ later others other last,
        e.EvaluatesTo (.call (connective deciding) (args.take (k + 1) ++ later)) w others other
            last ↔
          others = .call (connective deciding) (args.take (k + 1) ++ later) :: visited ∧
            other = result ∧ last = after := by
  refine ⟨?_, fun _ _ _ => evaluatesTo_connective_iff binds nonempty, ?_⟩
  · intro result after
    rw [exists_evaluate_iff]
    constructor
    · rintro ⟨visited, evaluates⟩
      obtain ⟨k, more, -, decides⟩ := (evaluatesTo_connective_iff binds nonempty).mp evaluates
      exact ⟨k, more, decides⟩
    · rintro ⟨k, more, decides⟩
      exact ⟨_, (evaluatesTo_connective_iff binds nonempty).mpr ⟨k, more, rfl, decides⟩⟩
  · intro k visited result after decides inside later others other last
    have replaced := decides.replace inside later
    have nonempty : args.take (k + 1) ++ later ≠ [] := by simp [nonempty]
    have evaluates : e.EvaluatesTo _ w _ result after :=
      (evaluatesTo_connective_iff binds nonempty).mpr ⟨k, visited, rfl, replaced⟩
    constructor
    · intro evaluatesOther
      exact evaluates.unique evaluatesOther
    · rintro ⟨rfl, rfl, rfl⟩
      exact evaluates

/-- A host function that counts its calls. -/
def tick : HostFunction Nat := fun _ => .react (.modify (· + 1) .done) (pure (.bool true))

/-- An engine with the prelude and a function that counts its calls. -/
def ticking : Engine Nat := (Engine.new {} 0).withPrelude.registerFunction "tick" tick

theorem bindsConnectives_ticking : ticking.BindsConnectives := by
  have binds : ((Engine.new {} 0).withPrelude : Engine Nat).BindsPrelude :=
    bindsPrelude_withPrelude _
  intro deciding
  have other : "tick" ≠ connective deciding := by cases deciding <;> decide
  rw [ticking, registerFunction, NameTable.find?_insert, if_neg other]
  cases deciding with
  | false => exact binds.find? rfl
  | true => exact binds.find? rfl

/-- The first of two calls of the function is evaluated, and what lies between them decides. -/
theorem decidedAt_ticking :
    ticking.DecidedAt false [.call "tick" [], .literal .nil, .call "tick" []] ticking.world 1
      [.call "tick" [], .literal .nil] (.ok .nil) (ticking.world.modify (· + 1)) := by
  have bound : ticking.functions.find? "tick" = some tick := by
    rw [ticking, registerFunction, NameTable.find?_insert, if_pos rfl]
  have ran : (Reaction.modify (· + 1) .done).run 2 ticking.world =
      some (ticking.world.modify (· + 1)) := rfl
  have ticks : ticking.EvaluatesTo (.call "tick" []) ticking.world [.call "tick" []]
      (.ok (.bool true)) (ticking.world.modify (· + 1)) := .call bound (.react ran (.done _ _))
  refine .intro (.cons ticks (.nil _)) ?_ (.literal .nil _) (.inr ?_)
  · simp [Value.isTruthy]
  · rintro _ ⟨⟩
    rfl

theorem evaluates_until_decided_ticking :
    ticking.BindsConnectives ∧
    (∃ fuel, ticking.evaluate fuel
        (.call "and" [.call "tick" [], .literal .nil, .call "tick" []]) ticking.world =
      some (.ok .nil, ticking.world.modify (· + 1))) ∧
    ∀ later, ticking.EvaluatesTo (.call "and" (.call "tick" [] :: .literal .nil :: later))
      ticking.world
      (.call "and" (.call "tick" [] :: .literal .nil :: later) ::
        [.call "tick" [], .literal .nil])
      (.ok .nil) (ticking.world.modify (· + 1)) := by
  have binds := bindsConnectives_ticking
  have decided := decidedAt_ticking
  obtain ⟨evaluates, -, replaces⟩ := evaluates_until_decided binds false
    (List.cons_ne_nil (.call "tick" []) [.literal .nil, .call "tick" []]) ticking.world
  refine ⟨binds, (evaluates _ _).mpr ⟨1, _, decided⟩, fun later => ?_⟩
  exact (replaces _ _ _ _ decided (by decide) later _ _ _).mpr ⟨rfl, rfl, rfl⟩

end Engine

end DialogueEngine
