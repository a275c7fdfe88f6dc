import DialogueEngine.Proofs.Script.Causes
import DialogueEngine.Proofs.Script.Parsing

/-!
# The variables that an expression names

An expression reads no variables but those that stand in its text, each in its own namespace. Scopes
that agree on these cannot be told apart by it, neither by a value nor by a failure.
-/

namespace DialogueEngine

open Script (Lexeme Node Token parse tokens)

namespace Scope

/-- Two scopes bind the variables among some lexemes alike, or neither binds them. -/
structure AgreeOn (lexemes : List Lexeme) (scope other : Scope) : Prop where
  reactive? {name : String} : .reactive name ∈ lexemes → scope.reactive? name = other.reactive? name
  static? {name : String} : .static name ∈ lexemes → scope.static? name = other.static? name

variable {scope other : Scope} {lexemes : List Lexeme} {name : String}

theorem AgreeOn.mono {more : List Lexeme} (agree : scope.AgreeOn more other)
    (within : lexemes ⊆ more) : scope.AgreeOn lexemes other where
  reactive? named := agree.reactive? (within named)
  static? named := agree.static? (within named)

theorem AgreeOn.reactive (agree : scope.AgreeOn lexemes other)
    (named : .reactive name ∈ lexemes) : scope.reactive name = other.reactive name := by
  rw [Scope.reactive, Scope.reactive, agree.reactive? named]

theorem AgreeOn.static (agree : scope.AgreeOn lexemes other)
    (named : .static name ∈ lexemes) : scope.static name = other.static name := by
  rw [Scope.static, Scope.static, agree.static? named]

end Scope

namespace Script

variable {scope other : Scope}

mutual

theorem Node.evaluate_congr : ∀ {node : Node}, scope.AgreeOn node.flatten other →
    node.evaluate scope = node.evaluate other
  | .literal value, _ => by rw [evaluate, evaluate]
  | .reactive name, agree => by
    rw [evaluate, evaluate, agree.reactive (List.mem_singleton_self _)]
  | .static name, agree => by
    rw [evaluate, evaluate, agree.static (List.mem_singleton_self _)]
  | .call operator args, agree => by
    have within : flattenList args ⊆ (call operator args).flatten := fun lexeme mem =>
      List.mem_cons_of_mem _ (List.mem_cons_of_mem _ (List.mem_append_left _ mem))
    rw [evaluate_call, evaluate_call, Node.map_evaluate_congr (agree.mono within)]

theorem Node.map_evaluate_congr : ∀ {nodes : List Node},
    scope.AgreeOn (flattenList nodes) other →
      nodes.map (evaluate scope) = nodes.map (evaluate other)
  | [], _ => rfl
  | node :: rest, agree => by
    rw [flattenList] at agree
    rw [List.map_cons, List.map_cons,
      Node.evaluate_congr (agree.mono (List.subset_append_left _ _)),
      Node.map_evaluate_congr (agree.mono (List.subset_append_right _ _))]

end

/-- What an expression comes to depends on the variables that it names and on nothing else in the
scope. If it fails, operators have brought that about. -/
theorem evaluate_reads_named {source : String} (reads : ∃ node, parse source = .ok node)
    (agree : scope.AgreeOn ((tokens source).map Token.lexeme) other) :
    evaluate source scope = evaluate source other ∧
      ∀ failure, evaluate source scope = .error failure → failure.OfOperators := by
  obtain ⟨node, read⟩ := reads
  have evaluated (scope : Scope) : evaluate source scope = node.evaluate scope := by
    rw [evaluate, read]
  obtain ⟨-, written, -⟩ := spelledBy_of_parse read
  have within : node.flatten ⊆ (tokens source).map Token.lexeme := by
    rw [written]
    exact List.subset_append_left _ _
  rw [evaluated, evaluated]
  exact ⟨Node.evaluate_congr (agree.mono within), Ordinary.evaluate scope node⟩

/-- A divisor by the name of `gold` in one namespace, and nothing in the other. -/
def hall : Scope where
  statics := NameTable.ofList [("gold", .int 0), ("door", .string "shut")]
  reactives := NameTable.ofList [("count", .int 20)]

/-- The same divisor, and a variable of that name in the other namespace. -/
def cellar : Scope where
  statics := NameTable.ofList [("gold", .int 0)]
  reactives := NameTable.ofList [("count", .int 20), ("gold", .int 7)]

theorem evaluate_reads_named_cellar :
    (∃ node, parse "(+ $count (/ 1 $$gold))" = .ok node) ∧
      hall.AgreeOn ((tokens "(+ $count (/ 1 $$gold))").map Token.lexeme) cellar ∧
      evaluate "(+ $count (/ 1 $$gold))" hall = .error ⟨.divisionByZero, none⟩ ∧
      evaluate "(+ $count (/ 1 $$gold))" cellar = .error ⟨.divisionByZero, none⟩ ∧
      Failure.OfOperators ⟨.divisionByZero, none⟩ := by
  have lexemes : (tokens "(+ $count (/ 1 $$gold))").map Token.lexeme =
      [.opening, .word "+", .reactive "count", .opening, .word "/", .int 1, .static "gold",
        .closing, .closing, .finish] := by decide +kernel
  let node : Node := .call .add [.reactive "count", .call .div [.literal (.int 1), .static "gold"]]
  have plain : node.Plain := ⟨trivial, ⟨rfl, trivial, trivial⟩, trivial⟩
  have read : parse "(+ $count (/ 1 $$gold))" = .ok node :=
    parse_of_spelledBy plain ⟨lexemes, by decide⟩
  have agree : hall.AgreeOn ((tokens "(+ $count (/ 1 $$gold))").map Token.lexeme) cellar := by
    rw [lexemes]
    constructor
    · intro name mem
      obtain rfl : name = "count" := by simpa using mem
      rfl
    · intro name mem
      obtain rfl : name = "gold" := by simpa using mem
      rfl
  have fails : evaluate "(+ $count (/ 1 $$gold))" hall = .error ⟨.divisionByZero, none⟩ := by
    rw [evaluate, read]
    rfl
  obtain ⟨same, ordinary⟩ := evaluate_reads_named ⟨node, read⟩ agree
  exact ⟨⟨node, read⟩, agree, fails, same ▸ fails, ordinary _ fails⟩

end Script

end DialogueEngine
