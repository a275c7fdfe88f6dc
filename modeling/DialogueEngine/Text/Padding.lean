/-!
# Fields of fixed width

A text is filled up with spaces to the width of its field, and left alone if it is wider.
-/

namespace DialogueEngine.Text

def spaces (count : Nat) : String := String.ofList (List.replicate count ' ')

/-- Writes a text at the right end of a field. -/
def padLeft (width : Nat) (s : String) : String := spaces (width - s.length) ++ s

/-- Writes a text at the left end of a field. -/
def padRight (width : Nat) (s : String) : String := s ++ spaces (width - s.length)

end DialogueEngine.Text
