import DialogueEngine.Script.Lexer
import DialogueEngine.Script.Operator
import DialogueEngine.Text.Quoted
import Mathlib.Data.List.TakeWhile

/-!
# Scanning what is written

How the lexemes of a text are scanned where they are written out: parentheses and quoted texts
whatever follows them, numbers and words before a space, a closing parenthesis or the end.
-/

namespace DialogueEngine.Script

section

variable {c : Char} {cs text : List Char}

theorem tokensFrom_of_blank (blank : text.dropWhile Text.isBlank = []) (column : Nat) :
    tokensFrom column text = [⟨.finish, column + (text.takeWhile Text.isBlank).length⟩] := by
  rw [tokensFrom]
  split
  · rfl
  · next visible =>
    rw [blank] at visible
    cases visible

theorem tokensFrom_of_visible (visible : text.dropWhile Text.isBlank = c :: cs) (column : Nat) :
    tokensFrom column text =
      let start := column + (text.takeWhile Text.isBlank).length
      if (scan c cs).1.isLast then [⟨(scan c cs).1, start⟩]
      else
        ⟨(scan c cs).1, start⟩ ::
          tokensFrom (start + 1 + (cs.length - (scan c cs).2.length)) (scan c cs).2 := by
  rw [tokensFrom]
  split
  · next blank =>
    rw [blank] at visible
    cases visible
  · next same =>
    rw [visible] at same
    cases same
    rfl

end

/-- No character of a class is a blank. -/
def Visible (p : Char → Bool) : Prop := ∀ c, p c → ¬Text.isBlank c

/-- There are few blanks, so a class can be tried on each. -/
theorem visible_of_blanks {p : Char → Bool}
    (outside : ∀ range ∈ Text.blankRanges,
      ∀ code ∈ List.range' range.1 (range.2 + 1 - range.1), p (Char.ofNat code) = false) :
    Visible p := by
  intro c holds blank
  obtain ⟨range, listed, lower, upper⟩ := Text.exists_of_inRanges blank
  have inside : c.toNat ∈ List.range' range.1 (range.2 + 1 - range.1) := by
    rw [List.mem_range'_1]
    omega
  have fails := outside range listed c.toNat inside
  rw [Char.ofNat_toNat, holds] at fails
  cases fails

theorem visible_isDigit : Visible Char.isDigit := visible_of_blanks (by decide +kernel)

/-- Wherever the text stands, it has the lexemes and then those of the rest. -/
def Lexes (text : List Char) (written : List Lexeme) (rest : List Char) : Prop :=
  ∀ column, ∃ next, (tokensFrom column text).map Token.lexeme =
    written ++ (tokensFrom next rest).map Token.lexeme

section

variable {text middle rest : List Char} {written more : List Lexeme}

theorem Lexes.refl (text : List Char) : Lexes text [] text := fun column => ⟨column, rfl⟩

theorem Lexes.trans (first : Lexes text written middle) (second : Lexes middle more rest) :
    Lexes text (written ++ more) rest := by
  intro column
  obtain ⟨next, begins⟩ := first column
  obtain ⟨last, goesOn⟩ := second next
  exact ⟨last, by rw [begins, goesOn, List.append_assoc]⟩

theorem Lexes.tokens_eq {source : String} (lexes : Lexes source.toList written []) :
    (tokens source).map Token.lexeme = written ++ [.finish] := by
  obtain ⟨next, same⟩ := lexes 1
  rw [tokens, same, tokensFrom_of_blank rfl]
  rfl

end

section

variable {c : Char} {cs rest : List Char} {lexeme : Lexeme}

theorem lexes_blank (blank : Text.isBlank c) : Lexes (c :: rest) [] rest := by
  intro column
  refine ⟨column + 1, ?_⟩
  have skipped : (c :: rest).dropWhile Text.isBlank = rest.dropWhile Text.isBlank :=
    List.dropWhile_cons_of_pos blank
  have start : column + ((c :: rest).takeWhile Text.isBlank).length =
      column + 1 + (rest.takeWhile Text.isBlank).length := by
    rw [List.takeWhile_cons_of_pos blank, List.length_cons, Nat.add_comm _ 1, Nat.add_assoc]
  rw [List.nil_append]
  cases visible : rest.dropWhile Text.isBlank with
  | nil => rw [tokensFrom_of_blank visible, tokensFrom_of_blank (skipped.trans visible), start]
  | cons =>
    rw [tokensFrom_of_visible visible, tokensFrom_of_visible (skipped.trans visible), start]

theorem lexes_scan (visible : ¬Text.isBlank c) (scanned : scan c cs = (lexeme, rest))
    (goesOn : lexeme.isLast = false) : Lexes (c :: cs) [lexeme] rest := by
  intro column
  rw [tokensFrom_of_visible (List.dropWhile_cons_of_neg visible)]
  simp only [scanned, goesOn, Bool.false_eq_true, if_false, List.map_cons, List.singleton_append]
  exact ⟨_, rfl⟩

theorem lexes_opening : Lexes ('(' :: rest) [.opening] rest :=
  lexes_scan (by decide) rfl rfl

theorem lexes_closing : Lexes (')' :: rest) [.closing] rest :=
  lexes_scan (by decide) rfl rfl

/-! ## Quoted texts -/

/-- A quoted text shows the character as it is, or with an escape that is read. -/
def Readable (c : Char) : Prop :=
  Text.escape c = [c] ∨ c = '\n' ∨ c = '\t' ∨ c = '\\' ∨ c = '"'

instance (c : Char) : Decidable (Readable c) := by unfold Readable; infer_instance

theorem scanString_cons (unquoted : c ≠ '"') (unescaped : c ≠ '\\') (cs : List Char) :
    scanString (c :: cs) = (scanString cs).map fun (text, rest) => (c :: text, rest) := by
  rw [scanString.eq_def]
  split <;> simp_all

theorem scanString_escape (readable : Readable c) (cs : List Char) :
    scanString (Text.escape c ++ cs) =
      (scanString cs).map fun (text, rest) => (c :: text, rest) := by
  rcases readable with shown | rfl | rfl | rfl | rfl
  · have unquoted : c ≠ '"' := by
      rintro rfl
      cases shown
    have unescaped : c ≠ '\\' := by
      rintro rfl
      cases shown
    rw [shown, List.singleton_append, scanString_cons unquoted unescaped]
  · rfl
  · rfl
  · rfl
  · rfl

theorem scanString_quoted {text : List Char} (readable : ∀ c ∈ text, Readable c) :
    scanString (text.flatMap Text.escape ++ '"' :: rest) = .ok (text, rest) := by
  induction text with
  | nil => rfl
  | cons c text ih =>
    rw [List.forall_mem_cons] at readable
    rw [List.flatMap_cons, List.append_assoc, scanString_escape readable.1, ih readable.2]
    rfl

theorem lexes_quote {s : String} (readable : ∀ c ∈ s.toList, Readable c) :
    Lexes ((Text.quote s).toList ++ rest) [.string s] rest := by
  have quoted : (Text.quote s).toList ++ rest =
      '"' :: (s.toList.flatMap Text.escape ++ '"' :: rest) := by simp [Text.quote]
  rw [quoted]
  refine lexes_scan (by decide) ?_ rfl
  simp [scan, scanString_quoted readable]

/-! ## Numbers and words -/

theorem any_head?_dropWhile (p : Char → Bool) (cs : List Char) :
    (cs.dropWhile p).head?.any p = false := by
  have stopped := List.head?_dropWhile_not p cs
  cases head : (cs.dropWhile p).head? with
  | none => rfl
  | some c => rwa [head] at stopped

theorem cut_of_stops {p : Char → Bool} {front : List Char} (all : ∀ c ∈ front, p c)
    (stops : rest.head?.any p = false) :
    (front ++ rest).takeWhile p = front ∧ (front ++ rest).dropWhile p = rest := by
  rw [List.takeWhile_append_of_pos all, List.dropWhile_append_of_pos all]
  cases rest with
  | nil => exact ⟨List.append_nil front, rfl⟩
  | cons c rest =>
    have stops : ¬p c := Bool.eq_false_iff.mp stops
    rw [List.takeWhile_cons_of_neg stops, List.dropWhile_cons_of_neg stops, List.append_nil]
    exact ⟨rfl, rfl⟩

theorem exists_cut (p : Char → Bool) (cs : List Char) :
    ∃ front rest, cs = front ++ rest ∧ (∀ c ∈ front, p c) ∧ rest.head?.any p = false :=
  ⟨cs.takeWhile p, cs.dropWhile p, List.takeWhile_append_dropWhile.symm,
    fun _ => List.mem_takeWhile_imp, any_head?_dropWhile p cs⟩

theorem startsWithDigit_eq_any (cs : List Char) :
    startsWithDigit cs = cs.head?.any Char.isDigit := by
  cases cs <;> rfl

/-- A number without a point ends with its digits. -/
theorem scanNumber_whole {whole : List Char} (all : ∀ c ∈ whole, c.isDigit)
    (noDigit : rest.head?.any Char.isDigit = false)
    (unpointed : rest.head? = some '.' → rest.tail.head?.any Char.isDigit = false)
    (negative : Bool) :
    scanNumber negative (whole ++ rest) = (intLexeme negative (digitsValue whole), rest) := by
  obtain ⟨taken, dropped⟩ := cut_of_stops all noDigit
  rw [scanNumber, taken, dropped]
  split
  · next d rest =>
    have noFraction : ¬d.isDigit := Bool.eq_false_iff.mp (unpointed rfl)
    rw [if_neg noFraction]
  · rfl

/-- A number with a point ends with the digits after it. -/
theorem scanNumber_pointed {whole fraction : List Char} (all : ∀ c ∈ whole, c.isDigit)
    (others : ∀ c ∈ fraction, c.isDigit) (nonempty : fraction ≠ [])
    (noDigit : rest.head?.any Char.isDigit = false) (negative : Bool) :
    scanNumber negative (whole ++ '.' :: (fraction ++ rest)) =
      (.float (Double.ofDecimal negative (digitsValue (whole ++ fraction)) (-fraction.length)),
        rest) := by
  have point : ('.' :: (fraction ++ rest)).head?.any Char.isDigit = false := rfl
  obtain ⟨taken, dropped⟩ := cut_of_stops all point
  obtain ⟨takenToo, droppedToo⟩ := cut_of_stops others noDigit
  rw [scanNumber, taken, dropped]
  cases fraction with
  | nil => exact absurd rfl nonempty
  | cons d fraction =>
    have digit : d.isDigit := others d List.mem_cons_self
    rw [List.cons_append] at takenToo droppedToo ⊢
    simp only [digit, if_true, takenToo, droppedToo]

/-- Nothing follows, or a character that neither a number nor a word goes on with. -/
def Ends (rest : List Char) : Prop := ∀ c ∈ rest.head?, c = ' ' ∨ c = ')'

theorem Ends.stops (ends : Ends rest) {p : Char → Bool} (space : p ' ' = false)
    (closing : p ')' = false) : rest.head?.any p = false := by
  cases rest with
  | nil => rfl
  | cons c rest => rcases ends c rfl with rfl | rfl <;> assumption

theorem Ends.scanNumber (ends : Ends rest) {digits : List Char} (all : ∀ c ∈ digits, c.isDigit)
    (negative : Bool) :
    scanNumber negative (digits ++ rest) = (intLexeme negative (digitsValue digits), rest) := by
  refine scanNumber_whole all (ends.stops rfl rfl) (fun point => ?_) negative
  rcases ends '.' point with same | same <;> cases same

theorem scan_of_isDigit (digit : c.isDigit) (cs : List Char) :
    scan c cs = scanNumber false (c :: cs) := by
  have other (d : Char) (noDigit : d.isDigit = false) : c ≠ d := by
    rintro rfl
    rw [noDigit] at digit
    cases digit
  rw [scan, if_neg (other '(' rfl), if_neg (other ')' rfl), if_neg (other '"' rfl),
    if_neg (other '$' rfl), if_pos digit]

theorem scan_sign {d : Char} (digit : d.isDigit) (cs : List Char) :
    scan '-' (d :: cs) = scanNumber true (d :: cs) := by
  have digits : startsWithDigit (d :: cs) := digit
  simp [scan, digits]

theorem scan_word (word : isWordChar c) (noDigit : ¬c.isDigit)
    (noNumber : ¬(c = '-' ∧ startsWithDigit (cs ++ rest))) (all : ∀ d ∈ cs, isWordChar d)
    (stops : rest.head?.any isWordChar = false) :
    scan c (cs ++ rest) = (wordLexeme (String.ofList (c :: cs)), rest) := by
  have other (d : Char) (outside : isWordChar d = false) : c ≠ d := by
    rintro rfl
    rw [outside] at word
    cases word
  obtain ⟨taken, dropped⟩ := cut_of_stops all stops
  rw [scan, if_neg (other '(' rfl), if_neg (other ')' rfl), if_neg (other '"' rfl),
    if_neg (other '$' rfl), if_neg noDigit, if_neg noNumber, if_pos word, taken, dropped]

theorem exists_toDigits_eq_cons (n : Nat) :
    ∃ d ds, Nat.toDigits 10 n = d :: ds ∧ ∀ c ∈ d :: ds, c.isDigit := by
  have nonempty : Nat.toDigits 10 n ≠ [] := Nat.toDigits_ne_nil
  obtain ⟨d, ds, split⟩ := List.exists_cons_of_ne_nil nonempty
  refine ⟨d, ds, split, fun c mem => ?_⟩
  rw [← split] at mem
  exact Nat.isDigit_of_mem_toDigits (by decide) (by decide) mem

theorem digitsValue_toDigits (n : Nat) : digitsValue (Nat.toDigits 10 n) = n :=
  Nat.ofDigitChars_ten_toDigits

theorem intLexeme_false {i : Int64} {n : Nat} (same : i.toInt = n) :
    intLexeme false n = .int i := by
  have small := i.toInt_lt
  rw [intLexeme, if_neg Bool.false_ne_true, if_pos (by omega), ← same, Int64.ofInt_toInt]

theorem intLexeme_true {i : Int64} {n : Nat} (same : i.toInt = -n) : intLexeme true n = .int i := by
  have large := i.le_toInt
  rw [intLexeme, if_pos rfl, if_pos (by omega), ← same, Int64.ofInt_toInt]

theorem lexes_int (i : Int64) (ends : Ends rest) :
    Lexes ((toString i.toInt).toList ++ rest) [.int i] rest := by
  cases same : i.toInt with
  | ofNat n =>
    obtain ⟨d, ds, split, all⟩ := exists_toDigits_eq_cons n
    have written : (toString (Int.ofNat n)).toList = d :: ds := Nat.toList_repr.trans split
    have first : d.isDigit := all d List.mem_cons_self
    rw [written, List.cons_append]
    refine lexes_scan (visible_isDigit d first) ?_ rfl
    rw [scan_of_isDigit first, ← List.cons_append, ends.scanNumber all, ← split,
      digitsValue_toDigits, intLexeme_false same]
  | negSucc n =>
    obtain ⟨d, ds, split, all⟩ := exists_toDigits_eq_cons (n + 1)
    have written : (toString (Int.negSucc n)).toList = '-' :: d :: ds := by
      rw [← split, ← Nat.toList_repr]
      exact String.toList_append
    have first : d.isDigit := all d List.mem_cons_self
    rw [written, List.cons_append]
    refine lexes_scan (by decide) ?_ rfl
    rw [List.cons_append, scan_sign first, ← List.cons_append, ends.scanNumber all, ← split, digitsValue_toDigits, intLexeme_true same]

/-- The characters of a word. A minus sign is one by itself, where no digit follows. -/
def isWord : List Char → Bool
  | [] => false
  | c :: cs =>
      (c :: cs).all isWordChar && !Text.isBlank c && !c.isDigit && (c != '-' || cs.isEmpty)

theorem isWord_cons : isWord (c :: cs) ↔
    (∀ d ∈ c :: cs, isWordChar d) ∧ ¬Text.isBlank c ∧ ¬c.isDigit ∧ (c = '-' → cs = []) := by
  have sign : (c != '-' || cs.isEmpty) ↔ (c = '-' → cs = []) := by
    by_cases minus : c = '-' <;> simp [minus]
  simp only [isWord, Bool.and_eq_true, List.all_eq_true, Bool.not_eq_true', Bool.not_eq_true, sign,
    and_assoc]

theorem isLast_wordLexeme (w : String) : (wordLexeme w).isLast = false := by
  fun_cases wordLexeme w <;> rfl

theorem lexes_word {w : String} (word : isWord w.toList) (ends : Ends rest) :
    Lexes (w.toList ++ rest) [wordLexeme w] rest := by
  cases spelled : w.toList with
  | nil =>
    rw [spelled] at word
    cases word
  | cons c cs =>
    rw [spelled] at word
    obtain ⟨all, visible, noDigit, alone⟩ := isWord_cons.mp word
    rw [List.cons_append]
    refine lexes_scan visible ?_ (isLast_wordLexeme w)
    have noNumber : ¬(c = '-' ∧ startsWithDigit (cs ++ rest)) := by
      rintro ⟨sign, digit⟩
      rw [alone sign, List.nil_append, startsWithDigit_eq_any, ends.stops rfl rfl] at digit
      cases digit
    have others : ∀ d ∈ cs, isWordChar d := fun d mem => all d (List.mem_cons_of_mem c mem)
    rw [scan_word (all c List.mem_cons_self) noDigit noNumber others (ends.stops rfl rfl),
      ← spelled, String.ofList_toList]

theorem lexes_symbol (operator : Operator) (ends : Ends rest) :
    Lexes (operator.symbol.toList ++ rest) [.word operator.symbol] rest := by
  have word : isWord operator.symbol.toList := by cases operator <;> decide +kernel
  have noLiteral : wordLexeme operator.symbol = .word operator.symbol := by
    cases operator <;> decide
  rw [← noLiteral]
  exact lexes_word word ends

end

end DialogueEngine.Script
