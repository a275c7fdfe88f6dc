import DialogueEngine.Script.Parser

/-!
# Flattening

The lexemes that an expression is written with: a literal or a variable with one, a call with
parentheses around its operator and its arguments. No two expressions are written alike, however
the text goes on.
-/

namespace DialogueEngine.Script

/-- The lexeme of a literal. Lists, maps and host objects have none. -/
def literalLexeme? : Value → Option Lexeme
  | .nil => some .nil
  | .bool b => some (.bool b)
  | .int i => some (.int i)
  | .float x => some (.float x)
  | .string s => some (.string s)
  | .list _ | .map _ | .hostObject _ => none

namespace Node

mutual

/-- All literals have a lexeme. -/
def Plain : Node → Prop
  | literal value => (literalLexeme? value).isSome
  | reactive _ | static _ => True
  | call _ args => PlainList args

def PlainList : List Node → Prop
  | [] => True
  | node :: rest => Plain node ∧ PlainList rest

end

mutual

def flatten : Node → List Lexeme
  | literal value => (literalLexeme? value).toList
  | reactive name => [.reactive name]
  | static name => [.static name]
  | call operator args =>
      .opening :: .word operator.symbol :: (flattenList args ++ [.closing])

def flattenList : List Node → List Lexeme
  | [] => []
  | node :: rest => flatten node ++ flattenList rest

end

theorem plainList_iff {nodes : List Node} : PlainList nodes ↔ ∀ node ∈ nodes, node.Plain := by
  induction nodes with
  | nil => simp [PlainList]
  | cons node rest ih => simp [PlainList, ih]

theorem nestingList_le_iff {nodes : List Node} {bound : Nat} :
    nestingList nodes ≤ bound ↔ ∀ node ∈ nodes, node.nesting ≤ bound := by
  induction nodes with
  | nil => simp [nestingList]
  | cons node rest ih =>
    rw [nestingList, Nat.max_le, ih, List.forall_mem_cons]

theorem flattenList_append (first second : List Node) :
    flattenList (first ++ second) = flattenList first ++ flattenList second := by
  induction first with
  | nil => rfl
  | cons node first ih => rw [List.cons_append, flattenList, flattenList, ih, List.append_assoc]

end Node

/-- A lexeme that is a node by itself is how that node is written. -/
theorem Lexeme.flatten_of_leaf? {lexeme : Lexeme} {node : Node} (leaf : lexeme.leaf? = some node) :
    node.Plain ∧ node.flatten = [lexeme] ∧ node.nesting = 0 := by
  cases lexeme <;> cases leaf <;> exact ⟨by trivial, rfl, rfl⟩

/-- A node is written with one lexeme that is the node by itself, or it is a call. -/
theorem Node.leaf_or_call {node : Node} (plain : node.Plain) :
    (∃ lexeme, node.flatten = [lexeme] ∧ lexeme.leaf? = some node) ∨
      ∃ operator args, node = .call operator args := by
  cases node with
  | literal value =>
    cases value with
    | nil | bool | int | float | string => exact .inl ⟨_, rfl, rfl⟩
    | list | map | hostObject => cases plain
  | reactive | static => exact .inl ⟨_, rfl, rfl⟩
  | call operator args => exact .inr ⟨operator, args, rfl⟩

namespace Node

theorem flatten_ne_closing {node : Node} (plain : node.Plain) (rest more : List Lexeme) :
    node.flatten ++ rest ≠ .closing :: more := by
  intro same
  rcases leaf_or_call plain with ⟨lexeme, written, leaf⟩ | ⟨operator, args, rfl⟩
  · rw [written] at same
    cases same
    cases leaf
  · cases same

theorem eq_of_flatten_leaf {a b : Node} {lexeme : Lexeme} {rest more : List Lexeme}
    (leaf : lexeme.leaf? = some a) (plain : b.Plain)
    (same : lexeme :: rest = b.flatten ++ more) : a = b ∧ rest = more := by
  rcases leaf_or_call plain with ⟨other, written, leaf'⟩ | ⟨operator, args, rfl⟩
  · rw [written] at same
    cases same
    rw [leaf] at leaf'
    cases leaf'
    exact ⟨rfl, rfl⟩
  · cases same
    cases leaf

mutual

theorem flatten_append_inj : ∀ {a b : Node} {rest more : List Lexeme}, a.Plain → b.Plain →
    a.flatten ++ rest = b.flatten ++ more → a = b ∧ rest = more
  | .call operator args, b, rest, more, plain, other, same => by
    rcases leaf_or_call other with ⟨lexeme, written, leaf⟩ | ⟨operator', args', rfl⟩
    · rw [written] at same
      cases same
      cases leaf
    · simp only [flatten, List.cons_append, List.append_assoc, List.nil_append, List.cons.injEq,
        true_and, Lexeme.word.injEq] at same
      obtain ⟨symbol, same⟩ := same
      obtain ⟨rfl, rfl⟩ := flattenList_append_inj plain other same
      have operators := congrArg Operator.ofSymbol? symbol
      simp only [Operator.ofSymbol?_symbol, Option.some.injEq] at operators
      exact ⟨by rw [operators], rfl⟩
  | .literal value, b, rest, more, plain, other, same => by
    rcases leaf_or_call plain with ⟨lexeme, written, leaf⟩ | ⟨_, _, call⟩
    · rw [written] at same
      exact eq_of_flatten_leaf leaf other same
    · cases call
  | .reactive name, b, rest, more, _, other, same => eq_of_flatten_leaf rfl other same
  | .static name, b, rest, more, _, other, same => eq_of_flatten_leaf rfl other same

theorem flattenList_append_inj : ∀ {as bs : List Node} {rest more : List Lexeme},
    PlainList as → PlainList bs →
    flattenList as ++ .closing :: rest = flattenList bs ++ .closing :: more → as = bs ∧ rest = more
  | [], [], _, _, _, _, same => by
    cases same
    exact ⟨rfl, rfl⟩
  | [], b :: bs, _, _, _, other, same => by
    simp only [flattenList, List.nil_append, List.append_assoc] at same
    exact absurd same.symm (flatten_ne_closing other.1 _ _)
  | a :: as, [], _, _, plain, _, same => by
    simp only [flattenList, List.nil_append, List.append_assoc] at same
    exact absurd same (flatten_ne_closing plain.1 _ _)
  | a :: as, b :: bs, _, _, plain, other, same => by
    rw [flattenList, flattenList, List.append_assoc, List.append_assoc] at same
    obtain ⟨rfl, tails⟩ := flatten_append_inj plain.1 other.1 same
    obtain ⟨rfl, rest⟩ := flattenList_append_inj plain.2 other.2 tails
    exact ⟨rfl, rest⟩

end

mutual

/-- No lexeme of an expression ends a text. -/
theorem isLast_of_mem_flatten : ∀ {node : Node} {lexeme : Lexeme},
    lexeme ∈ node.flatten → lexeme.isLast = false
  | .literal value, lexeme, written => by
    cases value with
    | nil | bool | int | float | string => cases List.mem_singleton.mp written; rfl
    | list | map | hostObject => cases written
  | .reactive name, lexeme, written => by cases List.mem_singleton.mp written; rfl
  | .static name, lexeme, written => by cases List.mem_singleton.mp written; rfl
  | .call operator args, lexeme, written => by
    simp only [flatten, List.mem_cons, List.mem_append, List.not_mem_nil, or_false] at written
    rcases written with rfl | rfl | within | rfl
    · rfl
    · rfl
    · exact isLast_of_mem_flattenList within
    · rfl

theorem isLast_of_mem_flattenList : ∀ {nodes : List Node} {lexeme : Lexeme},
    lexeme ∈ flattenList nodes → lexeme.isLast = false
  | node :: rest, lexeme, written => by
    rcases List.mem_append.mp written with first | later
    · exact isLast_of_mem_flatten first
    · exact isLast_of_mem_flattenList later

end

end Node

end DialogueEngine.Script
