import DialogueEngine.Text.Graphic

/-!
# Quoted text

A quoted text stands between double quotes. Six characters have an escape of their own, and any
other character that is not graphic is written as its code point in hexadecimal.
-/

namespace DialogueEngine.Text

/-- `\u{…}` with the code point in lower case hexadecimal. -/
def codePointEscape (c : Char) : List Char :=
  ['\\', 'u', '\x7b'] ++ Nat.toDigits 16 c.toNat ++ ['\x7d']

def escape (c : Char) : List Char :=
  if c = '\x00' then ['\\', '0']
  else if c = '\t' then ['\\', 't']
  else if c = '\n' then ['\\', 'n']
  else if c = '\r' then ['\\', 'r']
  else if c = '\\' then ['\\', '\\']
  else if c = '"' then ['\\', '"']
  else if isGraphic c then [c]
  else codePointEscape c

def quote (s : String) : String :=
  String.ofList ('"' :: s.toList.flatMap escape ++ ['"'])

end DialogueEngine.Text
