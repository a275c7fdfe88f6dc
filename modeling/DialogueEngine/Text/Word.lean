import DialogueEngine.Text.Blank

/-!
# Words

The words of a line are the longest runs of characters that are not blank.
-/

namespace DialogueEngine.Text

/-- Adds a character to the word that a text starts with. -/
def extendWord (c : Char) : List (List Char) → List (List Char)
  | [] => [[c]]
  | word :: rest => (c :: word) :: rest

def wordsOf : List Char → List (List Char)
  | [] => []
  | [c] => if isBlank c then [] else [[c]]
  | c :: d :: rest =>
      if isBlank c then wordsOf (d :: rest)
      else if isBlank d then [c] :: wordsOf (d :: rest)
      else extendWord c (wordsOf (d :: rest))

def words (line : String) : List String := (wordsOf line.toList).map String.ofList

/-- Drops the blanks at the end of a text. -/
def trimEnd (s : String) : String :=
  String.ofList (s.toList.reverse.dropWhile isBlank).reverse

end DialogueEngine.Text
