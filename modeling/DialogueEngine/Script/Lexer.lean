import DialogueEngine.Number.Count
import DialogueEngine.Script.Token
import DialogueEngine.Text.Alphanumeric
import DialogueEngine.Text.Blank

/-!
# Reading tokens

`tokens` splits a text into tokens. Blanks separate tokens and are needed only where two tokens
would read as one. The tokens end with `finish`, or with the first fault.
-/

namespace DialogueEngine.Script

def isNameChar (c : Char) : Bool := Text.isAlphanumeric c || c == '_'

def isWordChar (c : Char) : Bool :=
  isNameChar c || ['+', '-', '*', '/', '%', '&', '|', '^', '<', '>', '=', '!', '.'].contains c

/-- The character that an escape stands for. -/
def unescape : Char → Option Char
  | 'n' => some '\n'
  | 't' => some '\t'
  | '\\' => some '\\'
  | '"' => some '"'
  | _ => none

/-- The content of a string up to the closing quote, and what follows it. -/
def scanString : List Char → Except LexicalFault (List Char × List Char)
  | [] | ['\\'] => .error .unterminatedString
  | '"' :: rest => .ok ([], rest)
  | '\\' :: c :: rest =>
      match unescape c with
      | some d => (scanString rest).map fun (text, rest) => (d :: text, rest)
      | none => .error (.invalidEscape c)
  | c :: rest => (scanString rest).map fun (text, rest) => (c :: text, rest)

/-- Integers are in the signed range of 64 bits. -/
def intLexeme (negative : Bool) (n : Nat) : Lexeme :=
  if negative then
    if n ≤ 0x8000000000000000 then .int (Int64.ofInt (-n)) else .fault .integerTooSmall
  else
    if n < 0x8000000000000000 then .int (Int64.ofInt n) else .fault .integerTooLarge

/-- A number, from its first digit on. A point belongs to it only if a digit follows. -/
def scanNumber (negative : Bool) (cs : List Char) : Lexeme × List Char :=
  let whole := cs.takeWhile Char.isDigit
  match cs.dropWhile Char.isDigit with
  | '.' :: d :: rest =>
      if d.isDigit then
        let fraction := (d :: rest).takeWhile Char.isDigit
        (.float (Double.ofDecimal negative (digitsValue (whole ++ fraction)) (-fraction.length)),
          (d :: rest).dropWhile Char.isDigit)
      else (intLexeme negative (digitsValue whole), '.' :: d :: rest)
  | rest => (intLexeme negative (digitsValue whole), rest)

def wordLexeme (w : String) : Lexeme :=
  if w = "nil" then .nil
  else if w = "true" then .bool true
  else if w = "false" then .bool false
  else .word w

def nameLexeme (lexeme : String → Lexeme) (cs : List Char) : Lexeme × List Char :=
  let name := cs.takeWhile isNameChar
  (if name.isEmpty then .fault .missingName else lexeme (String.ofList name),
    cs.dropWhile isNameChar)

/-- A variable, from after its first dollar on. -/
def scanVariable : List Char → Lexeme × List Char
  | '$' :: rest => nameLexeme .static rest
  | cs => nameLexeme .reactive cs

def startsWithDigit : List Char → Bool
  | [] => false
  | c :: _ => c.isDigit

/-- The lexeme that starts with a character, and the text after it. -/
def scan (c : Char) (cs : List Char) : Lexeme × List Char :=
  if c = '(' then (.opening, cs)
  else if c = ')' then (.closing, cs)
  else if c = '"' then
    match scanString cs with
    | .ok (text, rest) => (.string (String.ofList text), rest)
    | .error fault => (.fault fault, [])
  else if c = '$' then scanVariable cs
  else if c.isDigit then scanNumber false (c :: cs)
  else if c = '-' ∧ startsWithDigit cs then scanNumber true cs
  else if isWordChar c then
    (wordLexeme (String.ofList (c :: cs.takeWhile isWordChar)), cs.dropWhile isWordChar)
  else (.fault (.unexpectedCharacter c), cs)

theorem length_dropWhile_le (p : Char → Bool) (cs : List Char) :
    (cs.dropWhile p).length ≤ cs.length :=
  (List.dropWhile_sublist p).length_le

theorem length_scanString_le {cs text rest : List Char} (h : scanString cs = .ok (text, rest)) :
    rest.length ≤ cs.length := by
  fun_induction scanString cs generalizing text rest with
  | case1 | case2 | case5 => simp at h
  | case3 => simp only [Except.ok.injEq, Prod.mk.injEq] at h; simp [← h.2]
  | case4 c tail d hd ih | case6 c tail _ _ _ ih =>
    simp only [Except.map] at h
    split at h
    · simp at h
    · next pair hpair =>
      simp only [Except.ok.injEq, Prod.mk.injEq] at h
      have := ih hpair
      simp only [List.length_cons, ← h.2]
      omega

theorem length_scanNumber_le (negative : Bool) {c : Char} (hc : c.isDigit) (cs : List Char) :
    (scanNumber negative (c :: cs)).2.length ≤ cs.length := by
  have drop : ((c :: cs).dropWhile Char.isDigit).length ≤ cs.length := by
    simpa [hc] using length_dropWhile_le Char.isDigit cs
  rw [scanNumber]
  split
  · next d rest heq =>
    split
    · have := length_dropWhile_le Char.isDigit (d :: rest)
      simp only [heq, List.length_cons] at drop this ⊢
      omega
    · simpa [heq] using drop
  · exact drop

theorem length_scan_le (c : Char) (cs : List Char) : (scan c cs).2.length ≤ cs.length := by
  rw [scan]
  split
  · simp
  split
  · simp
  split
  · split
    · next h => exact length_scanString_le h
    · simp
  split
  · rw [scanVariable.eq_def]
    split
    · next rest =>
      have := length_dropWhile_le isNameChar rest
      simp only [nameLexeme, List.length_cons]
      omega
    · exact length_dropWhile_le isNameChar cs
  split
  · next h => exact length_scanNumber_le false h cs
  split
  · next h =>
    obtain ⟨_, h⟩ := h
    cases cs with
    | nil => simp [startsWithDigit] at h
    | cons d rest =>
      have := length_scanNumber_le true h rest
      simp only [List.length_cons]
      omega
  split
  · exact length_dropWhile_le isWordChar cs
  · simp

/-- The tokens of a text whose first character stands in a column. -/
def tokensFrom (column : Nat) (text : List Char) : List Token :=
  let start := column + (text.takeWhile Text.isBlank).length
  match h : text.dropWhile Text.isBlank with
  | [] => [⟨.finish, start⟩]
  | c :: cs =>
      let scanned := scan c cs
      let token : Token := ⟨scanned.1, start⟩
      if scanned.1.isLast then [token]
      else token :: tokensFrom (start + 1 + (cs.length - scanned.2.length)) scanned.2
termination_by text.length
decreasing_by
  have drop := length_dropWhile_le Text.isBlank text
  have scan := length_scan_le c cs
  simp only [h, List.length_cons] at drop
  omega

def tokens (source : String) : List Token := tokensFrom 1 source.toList

end DialogueEngine.Script
