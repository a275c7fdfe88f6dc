import DialogueEngine.Proofs.Script.Operand
import DialogueEngine.Proofs.Script.Parsing
import DialogueEngine.Proofs.Script.Scanning

/-!
# Operands read back as expressions

An operand that calls nothing but operators is written like the expression with the same operators
and arguments: wherever a listing shows one, its text can be copied into an embedded expression.
Literals have to be such that expressions can write them.
-/

namespace DialogueEngine

open Script (Node Operator Lexes Ends maxNesting parse)

/-- The value is written in a listing as it is in an expression. -/
def Value.Readable : Value → Prop
  | nil | bool _ | int _ => True
  | string s => ∀ c ∈ s.toList, Script.Readable c
  | float _ | list _ | map _ | hostObject _ => False

namespace Operand

mutual

/-- All calls are calls of operators, and all literals can be read. -/
def Scripted : Operand → Prop
  | literal value => value.Readable
  | call function arguments =>
      (∃ operator : Operator, operator.symbol = function) ∧ AllScripted arguments

def AllScripted : List Operand → Prop
  | [] => True
  | operand :: rest => Scripted operand ∧ AllScripted rest

end

mutual

/-- The greatest number of calls around one another. -/
def nesting : Operand → Nat
  | literal _ => 0
  | call _ arguments => nestingList arguments + 1

def nestingList : List Operand → Nat
  | [] => 0
  | operand :: rest => max (nesting operand) (nestingList rest)

end

/-- The operand is that of the node, and it is written like the node. -/
structure Renders (operand : Operand) (node : Node) : Prop where
  operand_eq : node.operand = operand
  nesting_eq : node.nesting = operand.nesting
  plain : node.Plain
  lexes {rest : List Char} : Ends rest → Lexes (operand.text.toList ++ rest) node.flatten rest

structure RendersArguments (operands : List Operand) (nodes : List Node) : Prop where
  operands_eq : Node.operands nodes = operands
  nesting_eq : Node.nestingList nodes = nestingList operands
  plain : Node.PlainList nodes
  lexes {rest : List Char} : Ends rest →
    Lexes ((argumentTexts operands).toList ++ rest) (Node.flattenList nodes) rest

section

variable {operand : Operand} {operands : List Operand} {node : Node} {nodes : List Node}
  {rest : List Char}

theorem exists_literalLexeme {value : Value} (readable : value.Readable) :
    ∃ lexeme, Script.literalLexeme? value = some lexeme ∧
      ∀ {rest : List Char}, Ends rest → Lexes (value.literalText.toList ++ rest) [lexeme] rest := by
  cases value with
  | nil => exact ⟨_, rfl, Script.lexes_word (w := "nil") (by decide +kernel)⟩
  | bool b =>
    cases b with
    | false => exact ⟨_, rfl, Script.lexes_word (w := "false") (by decide +kernel)⟩
    | true => exact ⟨_, rfl, Script.lexes_word (w := "true") (by decide +kernel)⟩
  | int i => exact ⟨_, rfl, Script.lexes_int i⟩
  | string s => exact ⟨_, rfl, fun _ => Script.lexes_quote readable⟩
  | float | list | map | hostObject => cases readable

theorem renders_literal {value : Value} (readable : value.Readable) :
    Renders (.literal value) (.literal value) := by
  obtain ⟨lexeme, isLexeme, lexes⟩ := exists_literalLexeme readable
  refine ⟨rfl, rfl, ?_, fun ends => ?_⟩
  · rw [Node.Plain, isLexeme]
    rfl
  · rw [Node.flatten, isLexeme]
    exact lexes ends

/-- Each argument has a space before it. -/
theorem ends_argumentTexts (operands : List Operand) (ends : Ends rest) :
    Ends ((argumentTexts operands).toList ++ rest) := by
  cases operands with
  | nil => exact ends
  | cons operand operands =>
    rw [argumentTexts, String.append_assoc, String.toList_append]
    rintro c ⟨⟩
    exact .inl rfl

theorem RendersArguments.call (operator : Operator) (renders : RendersArguments operands nodes) :
    Renders (.call operator.symbol operands) (.call operator nodes) where
  operand_eq := by rw [Node.operand, renders.operands_eq]
  nesting_eq := by rw [Node.nesting, nesting, renders.nesting_eq]
  plain := renders.plain
  lexes {rest} _ := by
    have closes : Ends (')' :: rest) := by
      rintro c ⟨⟩
      exact .inr rfl
    have written : (Operand.call operator.symbol operands).text.toList ++ rest =
        '(' :: (operator.symbol.toList ++ ((argumentTexts operands).toList ++ ')' :: rest)) := by
      simp [text]
    rw [written]
    exact Script.lexes_opening.trans <|
      (Script.lexes_symbol operator (ends_argumentTexts operands closes)).trans <|
        (renders.lexes closes).trans Script.lexes_closing

theorem rendersArguments_nil : RendersArguments [] [] :=
  ⟨rfl, rfl, trivial, fun {rest} _ => Lexes.refl rest⟩

theorem Renders.cons (first : Renders operand node) (others : RendersArguments operands nodes) :
    RendersArguments (operand :: operands) (node :: nodes) where
  operands_eq := by rw [Node.operands, first.operand_eq, others.operands_eq]
  nesting_eq := by rw [Node.nestingList, nestingList, first.nesting_eq, others.nesting_eq]
  plain := ⟨first.plain, others.plain⟩
  lexes {rest} ends := by
    have written : (argumentTexts (operand :: operands)).toList ++ rest =
        ' ' :: (operand.text.toList ++ ((argumentTexts operands).toList ++ rest)) := by
      simp [argumentTexts]
    rw [written]
    exact (Script.lexes_blank (by decide)).trans <|
      (first.lexes (ends_argumentTexts operands ends)).trans (others.lexes ends)

end

mutual

theorem exists_renders : ∀ {operand : Operand}, operand.Scripted → ∃ node, Renders operand node
  | .literal value, readable => ⟨.literal value, renders_literal readable⟩
  | .call _ arguments, scripted => by
    obtain ⟨⟨operator, rfl⟩, arguments⟩ := scripted
    obtain ⟨nodes, renders⟩ := exists_rendersArguments arguments
    exact ⟨.call operator nodes, renders.call operator⟩

theorem exists_rendersArguments :
    ∀ {operands : List Operand}, AllScripted operands → ∃ nodes, RendersArguments operands nodes
  | [], _ => ⟨[], rendersArguments_nil⟩
  | _ :: _, scripted => by
    obtain ⟨node, first⟩ := exists_renders scripted.1
    obtain ⟨nodes, others⟩ := exists_rendersArguments scripted.2
    exact ⟨node :: nodes, first.cons others⟩

end

theorem Renders.parse_eq {operand : Operand} {node : Node} (renders : Renders operand node)
    (shallow : operand.nesting ≤ maxNesting) : parse operand.text = .ok node := by
  have lexes : Lexes operand.text.toList node.flatten [] := by
    have ends : Ends [] := nofun
    have lexes := renders.lexes ends
    rwa [List.append_nil] at lexes
  have spelled : node.SpelledBy operand.text := by
    refine ⟨lexes.tokens_eq, ?_⟩
    rw [renders.nesting_eq]
    exact shallow
  exact Script.parse_of_spelledBy renders.plain spelled

/-- What is written for an operand of operators is read as an expression, and as the one with the
same operators, arguments and literals. -/
theorem parse_text {operand : Operand} (scripted : operand.Scripted)
    (shallow : operand.nesting ≤ maxNesting) :
    ∃ node : Node, node.operand = operand ∧ parse operand.text = .ok node := by
  obtain ⟨node, renders⟩ := exists_renders scripted
  exact ⟨node, renders.operand_eq, renders.parse_eq shallow⟩

/-- A sign beside a negative number, and a point beside a quoted text with escapes. -/
def signs : Operand :=
  .call "-" [.literal (.int Int64.minValue), .call "." [.literal (.string "a\n\"b\\"),
    .literal .nil], .call "not" [.literal (.bool true)], .call "<=" []]

theorem parse_text_signs :
    signs.Scripted ∧ signs.nesting ≤ maxNesting ∧
      signs.text = "(- -9223372036854775808 (. \"a\\n\\\"b\\\\\" nil) (not true) (<=))" ∧
      ∃ node : Node, node.operand = signs ∧ parse signs.text = .ok node := by
  have readable : ∀ c ∈ "a\n\"b\\".toList, Script.Readable c := by
    have all : "a\n\"b\\".toList.all (fun c => decide (Script.Readable c)) := by decide +kernel
    simpa only [List.all_eq_true, decide_eq_true_eq] using all
  have scripted : signs.Scripted :=
    ⟨⟨.sub, rfl⟩, trivial, ⟨⟨.get, rfl⟩, readable, trivial, trivial⟩,
      ⟨⟨.not, rfl⟩, trivial, trivial⟩, ⟨⟨.le, rfl⟩, trivial⟩, trivial⟩
  have shallow : signs.nesting ≤ maxNesting := by decide
  exact ⟨scripted, shallow, by decide +kernel, parse_text scripted shallow⟩

end Operand

end DialogueEngine
