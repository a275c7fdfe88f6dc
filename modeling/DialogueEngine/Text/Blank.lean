import DialogueEngine.Text.CodeRange

/-!
# Blank characters

The characters with the White_Space property of Unicode 17. They separate the words of a command
and the tokens of an expression.
-/

namespace DialogueEngine.Text

def blankRanges : List (Nat × Nat) :=
  [(0x9, 0xD), (0x20, 0x20), (0x85, 0x85), (0xA0, 0xA0), (0x1680, 0x1680), (0x2000, 0x200A),
    (0x2028, 0x2029), (0x202F, 0x202F), (0x205F, 0x205F), (0x3000, 0x3000)]

/-- Whether a character separates words. -/
def isBlank (c : Char) : Bool := inRanges c.toNat blankRanges

end DialogueEngine.Text
