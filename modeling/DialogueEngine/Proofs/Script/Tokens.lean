import DialogueEngine.Script.Lexer

/-!
# The tokens of a text

The tokens of a text end with the only one that nothing can follow. Each of them has a column in
the text or, where the text has ended, right after it.
-/

namespace DialogueEngine.Script

theorem tokensFrom_eq_append (column : Nat) (text : List Char) :
    ∃ front last, tokensFrom column text = front ++ [last] ∧ last.lexeme.isLast ∧
      ∀ token ∈ front, token.lexeme.isLast = false := by
  fun_induction tokensFrom column text with
  | case1 column text start => exact ⟨[], ⟨.finish, start⟩, rfl, rfl, nofun⟩
  | case2 column text start c cs _ scanned token last => exact ⟨[], token, rfl, last, nofun⟩
  | case3 column text start c cs _ scanned token more ih =>
    obtain ⟨front, last, split, isLast, others⟩ := ih
    refine ⟨token :: front, last, by rw [split, List.cons_append], isLast, ?_⟩
    rintro other (_ | ⟨_, listed⟩)
    · exact Bool.eq_false_iff.mpr more
    · exact others other listed

theorem column_of_mem_tokensFrom {column : Nat} {text : List Char} {token : Token}
    (listed : token ∈ tokensFrom column text) :
    column ≤ token.column ∧ token.column ≤ column + text.length := by
  have blanks (column : Nat) (text : List Char) :
      column + (text.takeWhile Text.isBlank).length + (text.dropWhile Text.isBlank).length =
        column + text.length := by
    rw [Nat.add_assoc, ← List.length_append, List.takeWhile_append_dropWhile]
  fun_induction tokensFrom column text with
  | case1 column text start =>
    have total : start + _ = _ := blanks column text
    rw [List.mem_singleton.mp listed]
    exact ⟨Nat.le_add_right _ _, Nat.le.intro total⟩
  | case2 column text start =>
    have total : start + _ = _ := blanks column text
    rw [List.mem_singleton.mp listed]
    exact ⟨Nat.le_add_right _ _, Nat.le.intro total⟩
  | case3 column text start c cs drop scanned _ more ih =>
    have above : column ≤ start := Nat.le_add_right _ _
    have total : start + _ = _ := blanks column text
    rw [drop, List.length_cons] at total
    rcases List.mem_cons.mp listed with same | later
    · rw [same]
      exact ⟨above, Nat.le.intro total⟩
    · have shorter : scanned.2.length ≤ cs.length := length_scan_le c cs
      have := ih later
      omega

theorem column_of_mem_tokens {source : String} {token : Token} (listed : token ∈ tokens source) :
    1 ≤ token.column ∧ token.column ≤ source.length + 1 := by
  have := column_of_mem_tokensFrom listed
  rw [String.length_toList] at this
  omega

/-- Nothing follows `finish`. -/
theorem nil_of_tokens {source : String} {written rest : List Lexeme}
    (same : (tokens source).map Token.lexeme = written ++ .finish :: rest) : rest = [] := by
  obtain ⟨front, last, split, -, others⟩ := tokensFrom_eq_append 1 source.toList
  rw [tokens, split, List.map_append, List.map_singleton] at same
  rcases List.eq_nil_or_concat rest with rfl | ⟨rest, lexeme, rfl⟩
  · rfl
  · have inits : front.map Token.lexeme = written ++ .finish :: rest := by
      rw [List.concat_eq_append, ← List.cons_append, ← List.append_assoc] at same
      exact (List.append_inj' same rfl).1
    have within : Lexeme.finish ∈ front.map Token.lexeme := by
      rw [inits]
      exact List.mem_append_right _ List.mem_cons_self
    obtain ⟨token, listed, isFinish⟩ := List.mem_map.mp within
    have := others token listed
    rw [isFinish] at this
    cases this

theorem exists_last (source : String) :
    ∃ lexeme ∈ (tokens source).map Token.lexeme, lexeme.isLast := by
  obtain ⟨front, last, split, isLast, -⟩ := tokensFrom_eq_append 1 source.toList
  refine ⟨last.lexeme, ?_, isLast⟩
  rw [tokens, split]
  exact List.mem_map_of_mem (List.mem_append_right _ List.mem_cons_self)

end DialogueEngine.Script
