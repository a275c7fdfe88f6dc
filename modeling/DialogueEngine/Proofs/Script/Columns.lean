import DialogueEngine.Proofs.Script.Reading
import DialogueEngine.Proofs.Script.Tokens

/-!
# Columns

Every token has the column of the character that it starts with, counted from one, and `finish`
has the column after the last character. So the columns of the tokens increase. A text is read
without ever leaving the boundaries of its characters.
-/

namespace DialogueEngine.Script

/-! ## Lexemes and their characters -/

section

variable {c : Char} {cs : List Char}

theorem intLexeme_ne_finish (negative : Bool) (n : Nat) : intLexeme negative n ≠ .finish := by
  fun_cases intLexeme negative n <;> simp

theorem nameLexeme_ne_finish (lexeme : String → Lexeme) (named : ∀ name, lexeme name ≠ .finish)
    (cs : List Char) : (nameLexeme lexeme cs).1 ≠ .finish := by
  simp only [nameLexeme]
  split
  · simp
  · exact named _

theorem wordLexeme_ne_finish (w : String) : wordLexeme w ≠ .finish := by
  intro same
  have goesOn := isLast_wordLexeme w
  rw [same] at goesOn
  cases goesOn

theorem scanNumber_ne_finish (negative : Bool) (cs : List Char) :
    (scanNumber negative cs).1 ≠ .finish := by
  rw [scanNumber]
  split
  · split
    · simp
    · exact intLexeme_ne_finish _ _
  · exact intLexeme_ne_finish _ _

/-- Only the end of a text has the lexeme `finish`. -/
theorem scan_ne_finish (c : Char) (cs : List Char) : (scan c cs).1 ≠ .finish := by
  rw [scan]
  split
  · simp
  split
  · simp
  split
  · split <;> simp
  split
  · rw [scanVariable.eq_def]
    split
    · exact nameLexeme_ne_finish .static (by simp) _
    · exact nameLexeme_ne_finish .reactive (by simp) _
  split
  · exact scanNumber_ne_finish _ _
  split
  · exact scanNumber_ne_finish _ _
  split
  · exact wordLexeme_ne_finish _
  · simp

end

/-! ## Where tokens stand -/

/-- A token has the column of a character, from which on its lexeme is read. -/
def Token.StartsIn (source : String) (token : Token) : Prop :=
  ∃ before c cs, source.toList = before ++ c :: cs ∧ ¬Text.isBlank c ∧
    (scan c cs).1 = token.lexeme ∧ token.column = before.length + 1

def Token.StandsIn (source : String) (token : Token) : Prop :=
  if token.lexeme = .finish then token.column = source.length + 1 else token.StartsIn source

section

variable {source : String} {before text cs : List Char} {c : Char}

theorem standsIn_scan (split : source.toList = before ++ text)
    (visible : text.dropWhile Text.isBlank = c :: cs) :
    Token.StandsIn source
      ⟨(scan c cs).1, before.length + 1 + (text.takeWhile Text.isBlank).length⟩ := by
  rw [Token.StandsIn, if_neg (scan_ne_finish c cs)]
  refine ⟨before ++ text.takeWhile Text.isBlank, c, cs, ?_, not_isBlank_of_dropWhile visible, rfl,
    ?_⟩
  · rw [List.append_assoc, ← visible, List.takeWhile_append_dropWhile, split]
  · rw [List.length_append, Nat.add_right_comm]

end

theorem standsIn_of_mem_tokensFrom (source : String) (first : Nat) (text : List Char) :
    ∀ before, source.toList = before ++ text → first = before.length + 1 →
      ∀ token ∈ tokensFrom first text, token.StandsIn source := by
  fun_induction tokensFrom first text with
  | case1 first text start blank =>
    rintro before split rfl token listed
    have whole : text.takeWhile Text.isBlank = text := by
      rw [← List.append_nil (text.takeWhile Text.isBlank), ← blank,
        List.takeWhile_append_dropWhile]
    rw [List.mem_singleton.mp listed, Token.StandsIn, if_pos rfl]
    have total := congrArg List.length split
    rw [String.length_toList, List.length_append] at total
    change before.length + 1 + (text.takeWhile Text.isBlank).length = source.length + 1
    rw [whole, total, Nat.add_right_comm]
  | case2 first text start c cs visible scanned token last =>
    rintro before split rfl token listed
    rw [List.mem_singleton.mp listed]
    exact standsIn_scan split visible
  | case3 first text start c cs visible scanned token more ih =>
    rintro before split rfl other listed
    rcases List.mem_cons.mp listed with rfl | later
    · exact standsIn_scan split visible
    · obtain ⟨taken, rest, parts, left, -⟩ := reads_scan split visible []
      obtain ⟨rfl, counted⟩ := left (Bool.eq_false_iff.mpr more)
      exact ih (before ++ taken) (by rw [List.append_assoc, ← parts, split]) counted other later

theorem pairwise_column_tokensFrom (first : Nat) (text : List Char) :
    (tokensFrom first text).Pairwise (·.column < ·.column) := by
  fun_induction tokensFrom first text with
  | case1 | case2 => exact List.pairwise_singleton _ _
  | case3 first text start c cs visible scanned token more ih =>
    refine List.pairwise_cons.mpr ⟨fun later listed => ?_, ih⟩
    have := (column_of_mem_tokensFrom listed).1
    change start < later.column
    omega

-- In columns a character counts once, however many bytes it takes.
example : (tokens "(+ \"né\" $ñ)").map Token.column = [1, 2, 4, 9, 11, 12] := by decide +kernel

/-! ## The whole text -/

theorem exists_ended (source : String) :
    ∃ final : Reading, final.mode = .ended ∧ final.tokens = tokens source ∧
      Reads source (.start source) final := by
  have reads := reads_tokensFrom source 1 source.toList [] [] rfl rfl
  rwa [← Cursor.start_eq_between] at reads

theorem isSome_step_of_reads {source : String} {reading final : Reading}
    (ended : final.mode = .ended) (reads : Reads source reading final) :
    (reading.step source).isSome := by
  rcases reads.cases_head with rfl | ⟨next, steps, -⟩
  · rw [Reading.step, ended]
    rfl
  · rw [steps]
    rfl

/-- Reading a text comes to an end with its tokens, whatever it has come to. Until then it is never
stopped, stands on boundaries of characters and counts the characters before it. Only the last of
the tokens is a last one. They have the columns of the characters that they start with, the end of
the text the column after all characters, and the columns increase. -/
theorem reading_sound (source : String) :
    (∃ final : Reading, final.mode = .ended ∧ final.tokens = tokens source ∧
      Reads source (.start source) final ∧
      ∀ reading, Reads source (.start source) reading →
        reading.cursor.Sound source ∧ (reading.step source).isSome ∧
          Reads source reading final) ∧
    (∃ front last, tokens source = front ++ [last] ∧ last.lexeme.isLast ∧
      ∀ token ∈ front, token.lexeme.isLast = false) ∧
    (∀ token ∈ tokens source,
      if token.lexeme = .finish then token.column = source.length + 1
      else token.StartsIn source) ∧
    (tokens source).Pairwise (·.column < ·.column) := by
  obtain ⟨final, ended, read, reads⟩ := exists_ended source
  refine ⟨⟨final, ended, read, reads, fun reading others => ?_⟩, tokensFrom_eq_append _ _,
    standsIn_of_mem_tokensFrom source 1 source.toList [] rfl rfl, pairwise_column_tokensFrom _ _⟩
  have goesOn := Reading.reads_of_ended ended reads others
  exact ⟨Reading.sound_of_reads others (Cursor.sound_start source),
    isSome_step_of_reads ended goesOn, goesOn⟩

end DialogueEngine.Script
