import DialogueEngine.Proofs.Script.Columns
import DialogueEngine.Proofs.Script.Parsing
import Mathlib.Data.List.Basic

/-!
# Blanks between tokens

Blanks may stand before the first token of a text, after its last one and between any two. Putting
in more of them, also where two tokens touch, changes neither the lexemes of a text nor the
expression that it is read as.
-/

namespace DialogueEngine.Script

/-! ## Putting in blanks -/

/-- From a place in a text on, only blanks come before one of the tokens. No token ends with a
blank, so the place is before the first token, between two tokens or, with `finish` at the end of
the text, after the last one. Reading comes there with no token started
(`betweenTokens_iff_reads`). -/
def BetweenTokens (tokens : List Token) (column : Nat) (text : List Char) : Prop :=
  ∃ token ∈ tokens, column ≤ token.column ∧
    (text.take (token.column - column)).all Text.isBlank

instance (tokens : List Token) (column : Nat) (text : List Char) :
    Decidable (BetweenTokens tokens column text) := by
  unfold BetweenTokens
  infer_instance

/-- A text that starts in a column, and the same with blanks put in between the tokens. -/
inductive SpacedOut (tokens : List Token) : Nat → List Char → List Char → Prop where
  | done (column : Nat) : SpacedOut tokens column [] []
  | keep {column : Nat} {c : Char} {text wider : List Char} :
      SpacedOut tokens (column + 1) text wider → SpacedOut tokens column (c :: text) (c :: wider)
  | blank {column : Nat} {c : Char} {text wider : List Char} :
      Text.isBlank c → BetweenTokens tokens column text → SpacedOut tokens column text wider →
        SpacedOut tokens column text (c :: wider)

namespace SpacedOut

section

variable {tokens : List Token} {column : Nat} {c : Char} {text wider : List Char}

theorem nil_iff : SpacedOut tokens column text [] ↔ text = [] := by
  constructor
  · rintro ⟨⟩
    rfl
  · rintro rfl
    exact .done column

theorem cons_iff : SpacedOut tokens column text (c :: wider) ↔
    (text.head? = some c ∧ SpacedOut tokens (column + 1) text.tail wider) ∨
      (Text.isBlank c ∧ BetweenTokens tokens column text ∧
        SpacedOut tokens column text wider) := by
  constructor
  · rintro (_ | spaced | ⟨blank, between, spaced⟩)
    · exact .inl ⟨rfl, spaced⟩
    · exact .inr ⟨blank, between, spaced⟩
  · rintro (⟨head, spaced⟩ | ⟨blank, between, spaced⟩)
    · obtain ⟨rest, rfl⟩ := List.head?_eq_some_iff.mp head
      exact .keep spaced
    · exact .blank blank between spaced

end

instance decidable (tokens : List Token) :
    ∀ column text wider, Decidable (SpacedOut tokens column text wider)
  | _, _, [] => decidable_of_iff _ nil_iff.symm
  | column, text, c :: wider =>
      haveI := decidable tokens (column + 1) text.tail wider
      haveI := decidable tokens column text wider
      decidable_of_iff _ (cons_iff (c := c)).symm

end SpacedOut

/-! ## Characters that are no blanks -/

theorem visible_isWordChar : Visible isWordChar := visible_of_blanks (by decide +kernel)

theorem visible_isNameChar : Visible isNameChar := by
  intro c name
  have word : isWordChar c := by rw [isWordChar, name, Bool.true_or]
  exact visible_isWordChar c word

theorem visible_dollar : Visible (· == '$') := visible_of_blanks (by decide +kernel)

/-- Characters that do not end with a blank. -/
def EndsVisibly (front : List Char) : Prop := ∀ c ∈ front.getLast?, ¬Text.isBlank c

section

variable {c : Char} {front back : List Char}

theorem Visible.endsVisibly {p : Char → Bool} (visible : Visible p) (all : ∀ c ∈ front, p c) :
    EndsVisibly front :=
  fun c last => visible c (all c (List.mem_of_getLast? last))

theorem endsVisibly_append (front : List Char) (nonempty : back ≠ []) :
    EndsVisibly (front ++ back) ↔ EndsVisibly back := by
  rw [EndsVisibly, EndsVisibly, List.getLast?_append_of_ne_nil front nonempty]

theorem EndsVisibly.cons (visible : ¬Text.isBlank c) (ends : EndsVisibly front) :
    EndsVisibly (c :: front) := by
  cases front with
  | nil =>
    rintro _ ⟨⟩
    exact visible
  | cons d front => exact ends

theorem EndsVisibly.of_cons (ends : EndsVisibly (c :: front)) : EndsVisibly front := by
  cases front with
  | nil => exact nofun
  | cons d front => exact ends

end

/-! ## What is scanned before blanks

A scanner looks ahead past the characters that it takes: by one character, or by two after a whole
number. Where blanks are put in there, it sees what it has seen before or a blank. -/

namespace SpacedOut

section

variable {tokens : List Token} {column : Nat} {c : Char} {front text wider : List Char}
  {p : Char → Bool}

theorem any_head? (spaced : SpacedOut tokens column text wider) (visible : Visible p)
    (stops : text.head?.any p = false) : wider.head?.any p = false := by
  cases spaced with
  | done => rfl
  | keep => exact stops
  | blank blank => exact Bool.eq_false_iff.mpr fun holds => visible _ holds blank

theorem any_head?_append (spaced : SpacedOut tokens column text wider) (visible : Visible p)
    (stops : (front ++ text).head?.any p = false) : (front ++ wider).head?.any p = false := by
  cases front with
  | nil => exact spaced.any_head? visible stops
  | cons => exact stops

theorem any_head?_tail (spaced : SpacedOut tokens column text wider) (visible : Visible p)
    (shown : ¬Text.isBlank c) (stops : text.head? = some c → text.tail.head?.any p = false)
    (head : wider.head? = some c) : wider.tail.head?.any p = false := by
  cases spaced with
  | done => rfl
  | keep spaced => exact spaced.any_head? visible (stops head)
  | blank blank =>
    cases head
    exact absurd blank shown

end

end SpacedOut

/-- What is scanned is told by the characters that it takes, which do not end with a blank: with
blanks put in after them, it is the same and takes the same. -/
def Detaches (scanner : List Char → Lexeme × List Char) (cs : List Char) : Prop :=
  ∃ front, cs = front ++ (scanner cs).2 ∧ EndsVisibly front ∧
    ∀ {tokens column wider}, SpacedOut tokens column (scanner cs).2 wider →
      scanner (front ++ wider) = ((scanner cs).1, wider)

section

variable {c d : Char} {cs : List Char}

theorem nameLexeme_append {name rest : List Char} (all : ∀ c ∈ name, isNameChar c)
    (stops : rest.head?.any isNameChar = false) (lexeme : String → Lexeme) :
    nameLexeme lexeme (name ++ rest) =
      (if name.isEmpty then .fault .missingName else lexeme (String.ofList name), rest) := by
  obtain ⟨taken, dropped⟩ := cut_of_stops all stops
  rw [nameLexeme, taken, dropped]

theorem detaches_name (lexeme : String → Lexeme) (cs : List Char) :
    Detaches (nameLexeme lexeme) cs := by
  obtain ⟨name, rest, rfl, all, stops⟩ := exists_cut isNameChar cs
  rw [Detaches, nameLexeme_append all stops]
  refine ⟨name, rfl, visible_isNameChar.endsVisibly all, fun spaced => ?_⟩
  exact nameLexeme_append all (spaced.any_head? visible_isNameChar stops) lexeme

theorem scanVariable_of_plain (plain : cs.head?.any (· == '$') = false) :
    scanVariable cs = nameLexeme .reactive cs := by
  rw [scanVariable.eq_def]
  split
  · cases plain
  · rfl

theorem detaches_variable (cs : List Char) : Detaches scanVariable cs := by
  fun_cases scanVariable cs with
  | case1 rest =>
    obtain ⟨front, split, ends, scans⟩ := detaches_name .static rest
    exact ⟨'$' :: front, congrArg ('$' :: ·) split, ends.cons (by decide), scans⟩
  | case2 cs noDollar =>
    obtain ⟨front, split, ends, scans⟩ := detaches_name .reactive cs
    have plain : cs.head?.any (· == '$') = false := by
      cases cs with
      | nil => rfl
      | cons c rest => exact beq_eq_false_iff_ne.mpr fun same => noDollar rest (same ▸ rfl)
    rw [Detaches, scanVariable_of_plain plain]
    refine ⟨front, split, ends, fun spaced => ?_⟩
    rw [split] at plain
    have still := spaced.any_head?_append visible_dollar plain
    rw [scanVariable_of_plain still, scans spaced]

/-! ### Numbers -/

/-- The digits at the start of a text are those of a whole number, or a point and further digits
follow them. -/
theorem whole_or_pointed (cs : List Char) :
    ∃ whole rest, (∀ c ∈ whole, c.isDigit) ∧ cs = whole ++ rest ∧
      (rest.head?.any Char.isDigit = false ∧
          (rest.head? = some '.' → rest.tail.head?.any Char.isDigit = false) ∨
        ∃ fraction after, rest = '.' :: (fraction ++ after) ∧ (∀ c ∈ fraction, c.isDigit) ∧
          fraction ≠ [] ∧ after.head?.any Char.isDigit = false) := by
  obtain ⟨whole, rest, split, all, stops⟩ := exists_cut Char.isDigit cs
  refine ⟨whole, rest, all, split, ?_⟩
  by_cases unpointed : rest.head? = some '.' → rest.tail.head?.any Char.isDigit = false
  · exact .inl ⟨stops, unpointed⟩
  · obtain ⟨point, digits⟩ := Classical.not_imp.mp unpointed
    obtain ⟨rest, rfl⟩ := List.head?_eq_some_iff.mp point
    obtain ⟨fraction, after, rfl, others, ended⟩ := exists_cut Char.isDigit rest
    refine .inr ⟨fraction, after, rfl, others, ?_, ended⟩
    rintro rfl
    exact digits ended

theorem detaches_number (negative : Bool) (cs : List Char) :
    Detaches (scanNumber negative) cs := by
  obtain ⟨whole, rest, all, rfl, ⟨stops, unpointed⟩ | ⟨fraction, after, rfl, others, nonempty,
    stops⟩⟩ := whole_or_pointed cs
  · rw [Detaches, scanNumber_whole all stops unpointed]
    refine ⟨whole, rfl, visible_isDigit.endsVisibly all, fun spaced => ?_⟩
    exact scanNumber_whole all (spaced.any_head? visible_isDigit stops)
      (spaced.any_head?_tail visible_isDigit (by decide) unpointed) negative
  · rw [Detaches, scanNumber_pointed all others nonempty stops]
    have taken (rest : List Char) :
        whole ++ '.' :: (fraction ++ rest) = (whole ++ ['.']) ++ fraction ++ rest := by simp
    refine ⟨(whole ++ ['.']) ++ fraction, taken after, ?_, fun spaced => ?_⟩
    · exact (endsVisibly_append _ nonempty).mpr (visible_isDigit.endsVisibly others)
    · rw [← taken]
      exact scanNumber_pointed all others nonempty (spaced.any_head? visible_isDigit stops) negative

/-- A number that starts with a digit takes that digit. -/
theorem detaches_digits (negative : Bool) (digit : d.isDigit) (cs : List Char) :
    Detaches (fun cs => scanNumber negative (d :: cs)) cs := by
  obtain ⟨front, split, ends, scans⟩ := detaches_number negative (d :: cs)
  cases front with
  | nil =>
    have shorter := length_scanNumber_le negative digit cs
    rw [List.nil_append] at split
    rw [← split] at shorter
    exact absurd shorter (Nat.not_succ_le_self cs.length)
  | cons c front =>
    obtain ⟨rfl, onward⟩ := List.cons.inj split
    exact ⟨front, onward, ends.of_cons, scans⟩

theorem detaches_sign (digits : startsWithDigit cs) : Detaches (scan '-') cs := by
  cases cs with
  | nil => cases digits
  | cons d cs =>
    obtain ⟨front, split, ends, scans⟩ := detaches_digits true digits cs
    rw [Detaches, scan_sign digits]
    refine ⟨d :: front, congrArg (d :: ·) split, ends.cons (visible_isDigit d digits),
      fun spaced => ?_⟩
    rw [List.cons_append, scan_sign digits]
    exact scans spaced

/-! ### Strings and words -/

theorem exists_of_map_cons {scanned : Except LexicalFault (List Char × List Char)}
    {text rest : List Char}
    (same : scanned.map (fun (more, left) => (c :: more, left)) = .ok (text, rest)) :
    ∃ more, text = c :: more ∧ scanned = .ok (more, rest) := by
  cases scanned with
  | error => cases same
  | ok pair =>
    cases same
    exact ⟨pair.1, rfl, rfl⟩

/-- A string ends with its quote, whatever follows. -/
theorem scanString_split {text rest : List Char} (scanned : scanString cs = .ok (text, rest)) :
    ∃ front, cs = front ++ '"' :: rest ∧
      ∀ other, scanString (front ++ '"' :: other) = .ok (text, other) := by
  fun_induction scanString cs generalizing text with
  | case1 | case2 | case5 => cases scanned
  | case3 =>
    cases scanned
    exact ⟨[], rfl, fun _ => rfl⟩
  | case4 c tail d escaped ih =>
    obtain ⟨more, rfl, inner⟩ := exists_of_map_cons scanned
    obtain ⟨front, rfl, same⟩ := ih inner
    refine ⟨'\\' :: c :: front, rfl, fun other => ?_⟩
    rw [List.cons_append, List.cons_append, scanString, escaped, same]
    rfl
  | case6 c tail notLast notQuote notEscape ih =>
    have unescaped : c ≠ '\\' := by
      rintro rfl
      cases tail with
      | nil => exact notLast rfl rfl
      | cons d tail => exact notEscape d tail rfl rfl
    obtain ⟨more, rfl, inner⟩ := exists_of_map_cons scanned
    obtain ⟨front, rfl, same⟩ := ih inner
    refine ⟨c :: front, rfl, fun other => ?_⟩
    rw [List.cons_append, scanString_cons notQuote unescaped, same]
    rfl

theorem detaches_string (more : (scan '"' cs).1.isLast = false) : Detaches (scan '"') cs := by
  cases string : scanString cs with
  | error fault => simp [scan, string, Lexeme.isLast] at more
  | ok pair =>
    obtain ⟨text, rest⟩ := pair
    obtain ⟨front, rfl, same⟩ := scanString_split string
    have scans (other : List Char) :
        scan '"' (front ++ '"' :: other) = (.string (String.ofList text), other) := by
      simp [scan, same]
    rw [Detaches, scans]
    refine ⟨front ++ ['"'], List.append_cons .., ?_, fun spaced => ?_⟩
    · refine (endsVisibly_append front (List.cons_ne_nil _ _)).mpr ?_
      rintro _ ⟨⟩
      decide
    · rw [← List.append_cons]
      exact scans _

theorem detaches_word (word : isWordChar c) (noDigit : ¬c.isDigit)
    (noNumber : ¬(c = '-' ∧ startsWithDigit cs)) : Detaches (scan c) cs := by
  obtain ⟨front, rest, rfl, all, stops⟩ := exists_cut isWordChar cs
  rw [Detaches, scan_word word noDigit noNumber all stops]
  refine ⟨front, rfl, visible_isWordChar.endsVisibly all, fun {_ _ wider} spaced => ?_⟩
  -- A minus sign that is a word by itself does not become the sign of a number.
  have still : ¬(c = '-' ∧ startsWithDigit (front ++ wider)) := by
    rintro ⟨sign, digits⟩
    have before : (front ++ rest).head?.any Char.isDigit = false := by
      rw [← startsWithDigit_eq_any]
      exact Bool.eq_false_iff.mpr fun digits => noNumber ⟨sign, digits⟩
    rw [startsWithDigit_eq_any, spaced.any_head?_append visible_isDigit before] at digits
    cases digits
  exact scan_word word noDigit still all (spaced.any_head? visible_isWordChar stops)

theorem detaches_scan (more : (scan c cs).1.isLast = false) : Detaches (scan c) cs := by
  by_cases opening : c = '('
  · subst opening
    exact ⟨[], rfl, nofun, fun _ => rfl⟩
  by_cases closing : c = ')'
  · subst closing
    exact ⟨[], rfl, nofun, fun _ => rfl⟩
  by_cases quote : c = '"'
  · subst quote
    exact detaches_string more
  by_cases dollar : c = '$'
  · subst dollar
    exact detaches_variable cs
  by_cases digit : c.isDigit
  · have scans : scan c = fun cs => scanNumber false (c :: cs) := funext (scan_of_isDigit digit)
    rw [scans]
    exact detaches_digits false digit cs
  by_cases negative : c = '-' ∧ startsWithDigit cs
  · obtain ⟨rfl, digits⟩ := negative
    exact detaches_sign digits
  by_cases word : isWordChar c
  · exact detaches_word word digit negative
  · rw [scan, if_neg opening, if_neg closing, if_neg quote, if_neg dollar, if_neg digit,
      if_neg negative, if_neg word] at more
    cases more

end

/-! ## Places between tokens -/

section

variable {tokens : List Token} {token : Token} {column : Nat} {c : Char}
  {front middle after cs text taken rest : List Char}

theorem BetweenTokens.mono {others : List Token} (among : tokens ⊆ others)
    (between : BetweenTokens tokens column text) : BetweenTokens others column text := by
  obtain ⟨token, listed, onward, blank⟩ := between
  exact ⟨token, among listed, onward, blank⟩

theorem BetweenTokens.of_passed (passed : token.column < column)
    (between : BetweenTokens (token :: tokens) column text) :
    BetweenTokens tokens column text := by
  obtain ⟨other, listed, onward, blank⟩ := between
  rcases List.mem_cons.mp listed with rfl | listed
  · exact absurd onward (Nat.not_le_of_lt passed)
  · exact ⟨other, listed, onward, blank⟩

/-- Where a token still goes on, the place is not between the tokens that come after it. -/
theorem not_betweenTokens (nonempty : front ≠ []) (ends : EndsVisibly front)
    (far : ∀ token ∈ tokens, column + front.length ≤ token.column) :
    ¬BetweenTokens tokens column (front ++ rest) := by
  rintro ⟨token, listed, -, blank⟩
  have reach : front.length ≤ token.column - column := Nat.le_sub_of_add_le' (far token listed)
  rw [List.take_append, List.take_of_length_le reach, List.all_eq_true] at blank
  have last := List.getLast?_eq_getLast_of_ne_nil nonempty
  exact ends _ last (blank _ (List.mem_append_left _ (List.getLast_mem nonempty)))

theorem endsVisibly_of_scan (visible : text.dropWhile Text.isBlank = c :: cs)
    (more : (scan c cs).1.isLast = false) (parts : text = taken ++ (scan c cs).2) :
    EndsVisibly taken := by
  obtain ⟨front, split, ends, -⟩ := detaches_scan more
  have whole := List.takeWhile_append_dropWhile (p := Text.isBlank) (l := text)
  rw [visible] at whole
  have same : (text.takeWhile Text.isBlank ++ c :: front) ++ (scan c cs).2 =
      taken ++ (scan c cs).2 := by
    rw [List.append_assoc, List.cons_append, ← split, whole, parts]
  rw [← List.append_cancel_right same]
  exact (endsVisibly_append _ (List.cons_ne_nil c front)).mpr
    (ends.cons (not_isBlank_of_dropWhile visible))

/-- A place between the tokens that come after a token comes after that token, too. -/
theorem exists_onward (visible : text.dropWhile Text.isBlank = c :: cs)
    (more : (scan c cs).1.isLast = false) (parts : text = taken ++ (scan c cs).2)
    (cut : text = middle ++ after)
    (far : ∀ token ∈ tokens, column + taken.length ≤ token.column)
    (between : BetweenTokens tokens (column + middle.length) after) :
    ∃ onward, middle = taken ++ onward ∧ (scan c cs).2 = onward ++ after := by
  rcases List.append_eq_append_iff.mp (cut.symm.trans parts) with ⟨inner, split, unread⟩ | beyond
  · by_cases empty : inner = []
    · subst empty
      exact ⟨[], by rw [split, List.append_nil, List.append_nil], unread.symm⟩
    · have ends := endsVisibly_of_scan visible more parts
      rw [split, endsVisibly_append middle empty] at ends
      refine absurd (unread ▸ between) (not_betweenTokens empty ends fun token listed => ?_)
      have beyond := far token listed
      rwa [split, List.length_append, ← Nat.add_assoc] at beyond
  · exact beyond

theorem betweenTokens_tokensFrom (column : Nat) (text : List Char) :
    BetweenTokens (tokensFrom column text) column text := by
  have found : ∃ token ∈ tokensFrom column text,
      token.column = column + (text.takeWhile Text.isBlank).length := by
    cases visible : text.dropWhile Text.isBlank with
    | nil =>
      rw [tokensFrom_of_blank visible]
      exact ⟨_, List.mem_cons_self, rfl⟩
    | cons c cs =>
      rw [tokensFrom_of_visible visible]
      dsimp only
      split <;> exact ⟨_, List.mem_cons_self, rfl⟩
  obtain ⟨token, listed, start⟩ := found
  have gap := List.prefix_iff_eq_take.mp (List.takeWhile_prefix Text.isBlank (l := text))
  refine ⟨token, listed, start ▸ Nat.le_add_right column _, ?_⟩
  rw [start, Nat.add_sub_cancel_left, ← gap, List.all_eq_true]
  exact isBlank_of_mem_takeWhile text

end

section

variable {source : String} {before middle after : List Char}

theorem betweenTokens_of_reads {read : List Token} (split : source.toList = before ++ after)
    (reads : Reads source (.start source) ⟨.between before after, .between, read⟩) :
    BetweenTokens (tokens source) (before.length + 1) after := by
  obtain ⟨final, ended, listed, goesOn⟩ :=
    reads_tokensFrom source (before.length + 1) after before read split rfl
  obtain ⟨other, endedToo, all, readsAll⟩ := exists_ended source
  have same := Reading.eq_of_reads_of_ended ended
    (Reading.reads_of_ended endedToo readsAll (reads.trans goesOn))
  rw [← all, same, listed]
  exact (betweenTokens_tokensFrom _ _).mono (List.subset_append_right _ _)

theorem reads_within_blanks (before : List Char) (read : List Token)
    (near : middle.length ≤ ((middle ++ after).takeWhile Text.isBlank).length) :
    Reads source ⟨.between before (middle ++ after), .between, read⟩
      ⟨.between (before ++ middle) after, .between, read⟩ := by
  have within : middle <+: (middle ++ after).takeWhile Text.isBlank :=
    List.prefix_of_prefix_length_le (List.prefix_append middle after)
      (List.takeWhile_prefix Text.isBlank) near
  exact reads_blanks source (fun c mem => isBlank_of_mem_takeWhile _ c (within.subset mem)) before
    after read

theorem reads_of_betweenTokens (source : String) (first : Nat) (text : List Char) :
    ∀ before middle after read, source.toList = before ++ text → first = before.length + 1 →
      text = middle ++ after →
        BetweenTokens (tokensFrom first text) (first + middle.length) after →
          ∃ read', Reads source ⟨.between before text, .between, read⟩
            ⟨.between (before ++ middle) after, .between, read'⟩ := by
  fun_induction tokensFrom first text with
  | case1 first text start | case2 first text start =>
    rintro before middle after read - - rfl ⟨token, listed, onward, -⟩
    rw [List.mem_singleton.mp listed] at onward
    exact ⟨read, reads_within_blanks before read (Nat.le_of_add_le_add_left onward)⟩
  | case3 first text start c cs visible scanned token more ih =>
    rintro before middle after read split rfl cut between
    by_cases near : middle.length ≤ (text.takeWhile Text.isBlank).length
    · subst cut
      exact ⟨read, reads_within_blanks before read near⟩
    have goesOn : (scan c cs).1.isLast = false := Bool.eq_false_iff.mpr more
    obtain ⟨taken, rest, parts, left, reads⟩ := reads_scan split visible read
    obtain ⟨rfl, counted⟩ := left goesOn
    have next : start + 1 + (cs.length - scanned.2.length) = before.length + 1 + taken.length :=
      counted.trans (by rw [List.length_append, Nat.add_right_comm])
    have passed : start < before.length + 1 + middle.length := by omega
    have later : BetweenTokens _ _ after := between.of_passed passed
    obtain ⟨onward, rfl, unread⟩ := exists_onward visible goesOn parts cut
      (fun other listed => next ▸ (column_of_mem_tokensFrom listed).1) later
    have ahead : source.toList = (before ++ taken) ++ scanned.2 := by
      rw [List.append_assoc, ← parts, split]
    rw [List.length_append, ← Nat.add_assoc, ← next] at later
    obtain ⟨read', readsOn⟩ :=
      ih (before ++ taken) onward after (read ++ [token]) ahead counted unread later
    rw [List.append_assoc] at readsOn
    refine ⟨read', reads.trans ?_⟩
    rwa [Reading.close, if_neg more]

/-- The places between tokens are those that reading comes to with no token started. -/
theorem betweenTokens_iff_reads (split : source.toList = before ++ after) :
    BetweenTokens (tokens source) (before.length + 1) after ↔
      ∃ read, Reads source (.start source) ⟨.between before after, .between, read⟩ := by
  constructor
  · intro between
    rw [Nat.add_comm] at between
    have reads := reads_of_betweenTokens source 1 source.toList [] before after [] rfl rfl split
      between
    rwa [List.nil_append, ← Cursor.start_eq_between] at reads
  · rintro ⟨read, reads⟩
    exact betweenTokens_of_reads split reads

-- Between two tokens that touch there is a place, and none between a sign and its digits.
example : (List.range 4).filter (fun n =>
    decide (BetweenTokens (tokens "1-2") (n + 1) ("1-2".toList.drop n))) = [0, 1, 3] := by
  decide +kernel

end

/-! ## Token by token -/

section

variable {tokens : List Token} {token : Token} {column : Nat} {c : Char}
  {front text rest wider : List Char}

namespace SpacedOut

/-- The rest of a token is kept as it is. -/
theorem through (spaced : SpacedOut tokens column (front ++ rest) wider)
    (ends : EndsVisibly front) (far : ∀ token ∈ tokens, column + front.length ≤ token.column) :
    ∃ wider', wider = front ++ wider' ∧
      SpacedOut tokens (column + front.length) rest wider' := by
  induction front generalizing column wider with
  | nil => exact ⟨wider, rfl, spaced⟩
  | cons c front ih =>
    cases spaced with
    | blank _ between =>
      exact absurd between (not_betweenTokens (List.cons_ne_nil c front) ends far)
    | keep spaced =>
      rw [List.length_cons, Nat.add_comm front.length, ← Nat.add_assoc] at far ⊢
      obtain ⟨wider', rfl, onward⟩ := ih spaced ends.of_cons far
      exact ⟨wider', rfl, onward⟩

theorem of_passed (passed : token.column < column)
    (spaced : SpacedOut (token :: tokens) column text wider) :
    SpacedOut tokens column text wider := by
  induction spaced with
  | done => exact .done _
  | keep _ ih => exact .keep (ih (Nat.lt_succ_of_lt passed))
  | blank blank between _ ih => exact .blank blank (between.of_passed passed) (ih passed)

theorem dropBlanks (spaced : SpacedOut tokens column text wider) :
    SpacedOut tokens (column + (text.takeWhile Text.isBlank).length)
      (text.dropWhile Text.isBlank) (wider.dropWhile Text.isBlank) := by
  induction spaced with
  | done => exact .done _
  | @keep column c text wider spaced ih =>
    by_cases blank : Text.isBlank c
    · rw [List.takeWhile_cons_of_pos blank, List.dropWhile_cons_of_pos blank,
        List.dropWhile_cons_of_pos blank, List.length_cons, Nat.add_comm _ 1, ← Nat.add_assoc]
      exact ih
    · rw [List.takeWhile_cons_of_neg blank, List.dropWhile_cons_of_neg blank,
        List.dropWhile_cons_of_neg blank]
      exact .keep spaced
  | blank blank _ _ ih =>
    rw [List.dropWhile_cons_of_pos blank]
    exact ih

theorem dropWhile_eq_nil (spaced : SpacedOut tokens column text wider)
    (blank : text.dropWhile Text.isBlank = []) : wider.dropWhile Text.isBlank = [] := by
  have dropped := spaced.dropBlanks
  rw [blank] at dropped
  generalize same : wider.dropWhile Text.isBlank = left at dropped
  cases dropped with
  | done => rfl
  | blank blank => exact absurd blank (not_isBlank_of_dropWhile same)

theorem exists_visible (spaced : SpacedOut tokens column text wider)
    (visible : text.dropWhile Text.isBlank = c :: rest) :
    ∃ wider', wider.dropWhile Text.isBlank = c :: wider' ∧
      SpacedOut tokens (column + (text.takeWhile Text.isBlank).length + 1) rest wider' := by
  have dropped := spaced.dropBlanks
  rw [visible] at dropped
  generalize same : wider.dropWhile Text.isBlank = left at dropped
  cases dropped with
  | keep spaced => exact ⟨_, rfl, spaced⟩
  | blank blank => exact absurd blank (not_isBlank_of_dropWhile same)

/-- Past the blanks, the same lexeme is scanned. What is left of the text is spaced out with regard
to the tokens that follow. -/
theorem exists_scan {cs : List Char} (visible : text.dropWhile Text.isBlank = c :: cs)
    (more : (scan c cs).1.isLast = false) :
    let start := column + (text.takeWhile Text.isBlank).length
    let next := start + 1 + (cs.length - (scan c cs).2.length)
    (∀ token ∈ tokens, next ≤ token.column) →
      SpacedOut (⟨(scan c cs).1, start⟩ :: tokens) column text wider →
        ∃ left wider', wider.dropWhile Text.isBlank = c :: left ∧
          scan c left = ((scan c cs).1, wider') ∧ SpacedOut tokens next (scan c cs).2 wider' := by
  intro start next far spaced
  obtain ⟨front, split, ends, scans⟩ := detaches_scan more
  obtain ⟨left, visibleToo, within⟩ := spaced.exists_visible visible
  have counted : next = start + 1 + front.length := by
    have total := congrArg List.length split
    rw [List.length_append] at total
    simp only [next, total, Nat.add_sub_cancel]
  generalize scan c cs = scanned at *
  subst split
  have passed : SpacedOut tokens (start + 1) (front ++ scanned.2) left :=
    within.of_passed (Nat.lt_succ_self start)
  obtain ⟨wider', rfl, after⟩ := passed.through ends fun token listed => counted ▸ far token listed
  exact ⟨_, wider', visibleToo, scans after, counted ▸ after⟩

end SpacedOut

end

/-! ## Whole texts -/

/-- No token is a fault. -/
def Legible (tokens : List Token) : Prop :=
  ∀ token ∈ tokens, ∀ fault, token.lexeme ≠ .fault fault

theorem lexemes_of_spacedOut (column : Nat) (text : List Char) :
    ∀ other wider, Legible (tokensFrom column text) →
      SpacedOut (tokensFrom column text) column text wider →
        (tokensFrom other wider).map Token.lexeme =
          (tokensFrom column text).map Token.lexeme := by
  fun_induction tokensFrom column text with
  | case1 column text start blank =>
    intro other wider _ spaced
    rw [tokensFrom_of_blank (spaced.dropWhile_eq_nil blank)]
    rfl
  | case2 column text start c cs visible scanned token last =>
    intro other wider legible _
    have noFault := legible token List.mem_cons_self
    have noFinish : scanned.1 ≠ .finish := scan_ne_finish c cs
    cases lexeme : scanned.1 with
    | fault fault => exact absurd lexeme (noFault fault)
    | finish => exact absurd lexeme noFinish
    | _ => rw [lexeme] at last; cases last
  | case3 column text start c cs visible scanned token more ih =>
    intro other wider legible spaced
    have goesOn : (scan c cs).1.isLast = false := Bool.eq_false_iff.mpr more
    have later : Legible _ := fun other listed => legible other (List.mem_cons_of_mem token listed)
    obtain ⟨left, wider', visibleToo, scans, onward⟩ :=
      SpacedOut.exists_scan visible goesOn (fun _ listed => (column_of_mem_tokensFrom listed).1)
        spaced
    rw [tokensFrom_of_visible visibleToo, scans]
    simp only [goesOn, Bool.false_eq_true, if_false, List.map_cons]
    exact congrArg (scanned.1 :: ·) (ih _ wider' later onward)

/-- Blanks that are put in before the first token of a text, after the last one or between any two
leave the lexemes as they are. So the text is read as an expression if it was, and as the same. -/
theorem spacing_immaterial {source wider : String} (legible : Legible (tokens source))
    (spaced : SpacedOut (tokens source) 1 source.toList wider.toList) :
    (tokens wider).map Token.lexeme = (tokens source).map Token.lexeme ∧
      ∀ node, parse wider = .ok node ↔ parse source = .ok node := by
  have same : (tokens wider).map Token.lexeme = (tokens source).map Token.lexeme :=
    lexemes_of_spacedOut 1 source.toList 1 wider.toList legible spaced
  exact ⟨same, fun node =>
    ⟨parse_eq_ok_of_lexemes_eq same.symm, parse_eq_ok_of_lexemes_eq same⟩⟩

/-- An expression with blanks only where two tokens would read as one. -/
def crowded : String := "(+ 1-2$x(-\"a\"nil)2.5)"

def roomy : String := "\t( + 1 -2 $x\n( - \"a\"  nil ) 2.5 ) "

theorem lexemes_crowded : (tokens crowded).map Token.lexeme =
    [.opening, .word "+", .int 1, .int (-2), .reactive "x", .opening, .word "-", .string "a", .nil,
      .closing, .float (Double.ofDecimal false 25 (-1)), .closing, .finish] := by
  decide +kernel

theorem legible_crowded : Legible (tokens crowded) := by
  intro token listed fault isFault
  have among := List.mem_map_of_mem (f := Token.lexeme) listed
  rw [lexemes_crowded, isFault] at among
  simp at among

def crowdedNode : Node :=
  .call .add [.literal (.int 1), .literal (.int (-2)), .reactive "x",
    .call .sub [.literal (.string "a"), .literal .nil],
    .literal (.float (Double.ofDecimal false 25 (-1)))]

theorem parse_crowded : parse crowded = .ok crowdedNode := by
  have plain : crowdedNode.Plain := ⟨rfl, rfl, trivial, ⟨rfl, rfl, trivial⟩, rfl, trivial⟩
  exact parse_of_spelledBy plain ⟨lexemes_crowded, by decide⟩

theorem spacing_immaterial_crowded :
    Legible (tokens crowded) ∧ SpacedOut (tokens crowded) 1 crowded.toList roomy.toList ∧
      (tokens roomy).map Token.lexeme = (tokens crowded).map Token.lexeme ∧
      parse crowded = .ok crowdedNode ∧ parse roomy = .ok crowdedNode := by
  have spaced : SpacedOut (tokens crowded) 1 crowded.toList roomy.toList := by decide +kernel
  obtain ⟨same, reads⟩ := spacing_immaterial legible_crowded spaced
  exact ⟨legible_crowded, spaced, same, parse_crowded, (reads crowdedNode).mpr parse_crowded⟩

end DialogueEngine.Script
