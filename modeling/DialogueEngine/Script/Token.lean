import DialogueEngine.Number.Double

/-!
# Tokens

The tokens of an embedded expression, each with the column of its first character, counted in
characters from one.
-/

namespace DialogueEngine.Script

/-- Why a text is not a sequence of tokens. -/
inductive LexicalFault where
  | unexpectedCharacter (c : Char)
  | invalidEscape (c : Char)
  | unterminatedString
  | missingName
  | integerTooLarge
  | integerTooSmall
deriving DecidableEq

def LexicalFault.message : LexicalFault → String
  | unexpectedCharacter c => "unexpected character: " ++ String.singleton c
  | invalidEscape c => "invalid escape sequence: \\" ++ String.singleton c
  | unterminatedString => "unterminated string literal"
  | missingName => "expected variable name after '$'"
  | integerTooLarge => "invalid integer: number too large to fit in target type"
  | integerTooSmall => "invalid integer: number too small to fit in target type"

inductive Lexeme where
  | opening
  | closing
  | nil
  | bool (b : Bool)
  | int (i : Int64)
  | float (x : Double)
  | string (s : String)
  /-- An operator, or a word that is none. -/
  | word (w : String)
  /-- `$name` -/
  | reactive (name : String)
  /-- `$$name` -/
  | static (name : String)
  | finish
  | fault (f : LexicalFault)
deriving DecidableEq

/-- Whether nothing follows a lexeme in a sequence of tokens. -/
def Lexeme.isLast : Lexeme → Bool
  | finish | fault _ => true
  | _ => false

structure Token where
  lexeme : Lexeme
  column : Nat
deriving DecidableEq

end DialogueEngine.Script
