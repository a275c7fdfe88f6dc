import DialogueEngine.Number.Numeral
import DialogueEngine.Text.Quoted
import DialogueEngine.Value.Basic

/-!
# Written values

A value is written in two styles: plain, as a reader of the dialogue sees it, and literal, as it
stands in a program. They differ in strings, which are quoted in literals, and in floats.
-/

namespace DialogueEngine

inductive TextStyle where
  | plain
  | literal
deriving DecidableEq

namespace TextStyle

def string : TextStyle → String → String
  | plain, s => s
  | literal, s => Text.quote s

def numeral : TextStyle → NumeralStyle
  | plain => .plain
  | literal => .literal

end TextStyle

namespace Value

variable (style : TextStyle)

def commaSeparated (parts : List String) : String := ", ".intercalate parts

mutual

/-- A running engine writes the entries of a map in an order that nothing specifies, and a host
object with the address at which it is kept. Here the entries are written in the order of the keys,
which is one of those orders, and the address is left out. -/
def text : Value → String
  | nil => "nil"
  | bool b => if b then "true" else "false"
  | int i => toString i.toInt
  | float x => x.text style.numeral
  | string s => style.string s
  | list items => "[" ++ commaSeparated (itemTexts items) ++ "]"
  | map entries => "\x7b" ++ commaSeparated (entryTexts entries) ++ "\x7d"
  | hostObject _ => "<opaque 0x>"

def itemTexts : List Value → List String
  | [] => []
  | item :: rest => text item :: itemTexts rest

def entryTexts : List (Value × Value) → List String
  | [] => []
  | (key, value) :: rest => (text key ++ ": " ++ text value) :: entryTexts rest

end

def plainText : Value → String := text .plain

def literalText : Value → String := text .literal

@[simp]
theorem plainText_string (s : String) : (string s).plainText = s := by
  simp [plainText, text, TextStyle.string]

end Value

end DialogueEngine
