import DialogueEngine.Proofs.Script.Cursor
import DialogueEngine.Proofs.Script.Scanning
import Mathlib.Logic.Relation

/-!
# Reading character by character

A text is read by a machine that has a cursor in it and moves past at most one character at a
time. What it is reading says how it goes on. It takes names, numbers and words out of the text by
the byte offsets between which they stand, and stops where an offset is no boundary.

On every text the machine comes to an end with the tokens of the text. Its cursor is sound all the
way, and so it is never stopped.
-/

namespace DialogueEngine.Script

/-! ## The machine -/

/-- What is being read, with the column where it starts. -/
inductive Mode where
  /-- No token has started. -/
  | between
  | string (column : Nat) (text : List Char)
  /-- A string, right after a backslash. -/
  | escape (column : Nat) (text : List Char)
  /-- A variable, right after its first dollar. -/
  | dollar (column : Nat)
  | name (column : Nat) (lexeme : String → Lexeme) (start : Nat)
  | number (column start : Nat) (pointed : Bool)
  | word (column start : Nat)
  | ended

structure Reading where
  cursor : Cursor
  mode : Mode
  tokens : List Token

namespace Reading

def start (source : String) : Reading := ⟨.start source, .between, []⟩

/-- Past the next character. -/
def goOn (reading : Reading) (mode : Mode) : Option Reading :=
  reading.cursor.advance.map fun cursor => { reading with cursor, mode }

/-- A token ends before the next character. -/
def close (reading : Reading) (lexeme : Lexeme) (column : Nat) : Reading :=
  { reading with
    mode := if lexeme.isLast then .ended else .between
    tokens := reading.tokens ++ [⟨lexeme, column⟩] }

/-- A token ends with the next character. -/
def closeAfter (reading : Reading) (lexeme : Lexeme) (column : Nat) : Option Reading :=
  (reading.goOn .between).map fun next => next.close lexeme column

/-- A token ends before the next character, and its lexeme depends on the text from an offset on. -/
def closeWith (reading : Reading) (source : String) (start : Nat) (lexeme : String → Lexeme)
    (column : Nat) : Option Reading :=
  (slice? source start reading.cursor.position).map fun text => reading.close (lexeme text) column

end Reading

/-- The lexeme of a number that is written with its sign. -/
def numeral (text : String) : Lexeme :=
  match text.toList with
  | '-' :: digits => (scanNumber true digits).1
  | digits => (scanNumber false digits).1

def properName (lexeme : String → Lexeme) (name : String) : Lexeme :=
  if name.isEmpty then .fault .missingName else lexeme name

namespace Reading

variable (source : String) (reading : Reading)

/-- A token starts with a character that is not blank. -/
def startToken (c : Char) (cs : List Char) : Option Reading :=
  let column := reading.cursor.column
  let position := reading.cursor.position
  if c = '(' then reading.closeAfter .opening column
  else if c = ')' then reading.closeAfter .closing column
  else if c = '"' then reading.goOn (.string column [])
  else if c = '$' then reading.goOn (.dollar column)
  else if c.isDigit then some { reading with mode := .number column position false }
  else if c = '-' ∧ startsWithDigit cs then reading.goOn (.number column position false)
  else if isWordChar c then some { reading with mode := .word column position }
  else reading.closeAfter (.fault (.unexpectedCharacter c)) column

def stepBetween : Option Reading :=
  match reading.cursor.rest.toList with
  | [] => some (reading.close .finish reading.cursor.column)
  | c :: cs => if Text.isBlank c then reading.goOn .between else reading.startToken c cs

def stepString (column : Nat) (text : List Char) : Option Reading :=
  match reading.cursor.rest.toList with
  | [] => some (reading.close (.fault .unterminatedString) column)
  | c :: _ =>
      if c = '"' then reading.closeAfter (.string (String.ofList text)) column
      else if c = '\\' then reading.goOn (.escape column text)
      else reading.goOn (.string column (text ++ [c]))

def stepEscape (column : Nat) (text : List Char) : Option Reading :=
  match reading.cursor.rest.toList with
  | [] => some (reading.close (.fault .unterminatedString) column)
  | c :: _ =>
      match unescape c with
      | some d => reading.goOn (.string column (text ++ [d]))
      | none => some (reading.close (.fault (.invalidEscape c)) column)

def stepDollar (column : Nat) : Option Reading :=
  match reading.cursor.rest.toList with
  | '$' :: _ =>
      (reading.goOn .between).map fun next =>
        { next with mode := .name column .static next.cursor.position }
  | _ => some { reading with mode := .name column .reactive reading.cursor.position }

def stepName (column : Nat) (lexeme : String → Lexeme) (start : Nat) : Option Reading :=
  if reading.cursor.rest.toList.head?.any isNameChar then reading.goOn reading.mode
  else reading.closeWith source start (properName lexeme) column

def stepNumber (column start : Nat) (pointed : Bool) : Option Reading :=
  let cs := reading.cursor.rest.toList
  if startsWithDigit cs then reading.goOn reading.mode
  else if cs.head? = some '.' ∧ pointed = false ∧ startsWithDigit cs.tail then
    reading.goOn (.number column start true)
  else reading.closeWith source start numeral column

def stepWord (column start : Nat) : Option Reading :=
  if reading.cursor.rest.toList.head?.any isWordChar then reading.goOn reading.mode
  else reading.closeWith source start wordLexeme column

/-- One step of the machine. It stays where it ended. -/
def step : Option Reading :=
  match reading.mode with
  | .between => reading.stepBetween
  | .string column text => reading.stepString column text
  | .escape column text => reading.stepEscape column text
  | .dollar column => reading.stepDollar column
  | .name column lexeme start => reading.stepName source column lexeme start
  | .number column start pointed => reading.stepNumber source column start pointed
  | .word column start => reading.stepWord source column start
  | .ended => some reading

end Reading

/-- The machine comes from one reading to another. -/
abbrev Reads (source : String) : Reading → Reading → Prop :=
  Relation.ReflTransGen fun reading next => reading.step source = some next

/-! ## Soundness -/

namespace Reading

/-- A step moves the cursor past one character, if at all. -/
def Moves (reading next : Reading) : Prop :=
  next.cursor = reading.cursor ∨ reading.cursor.advance = some next.cursor

variable {source : String} {reading next : Reading} {mode : Mode} {lexeme : Lexeme} {column : Nat}

theorem moves_of_goOn (goesOn : reading.goOn mode = some next) : reading.Moves next := by
  obtain ⟨cursor, moved, rfl⟩ := Option.map_eq_some_iff.mp goesOn
  exact .inr moved

theorem moves_of_closeAfter (closes : reading.closeAfter lexeme column = some next) :
    reading.Moves next := by
  obtain ⟨middle, goesOn, rfl⟩ := Option.map_eq_some_iff.mp closes
  have moves : reading.Moves middle := moves_of_goOn goesOn
  exact moves

theorem moves_of_closeWith {start : Nat} {lexeme : String → Lexeme}
    (closes : reading.closeWith source start lexeme column = some next) : reading.Moves next := by
  obtain ⟨_, -, rfl⟩ := Option.map_eq_some_iff.mp closes
  exact .inl rfl

theorem moves_of_startToken {c : Char} {cs : List Char}
    (steps : reading.startToken c cs = some next) : reading.Moves next := by
  simp only [startToken] at steps
  split at steps
  · exact moves_of_closeAfter steps
  split at steps
  · exact moves_of_closeAfter steps
  split at steps
  · exact moves_of_goOn steps
  split at steps
  · exact moves_of_goOn steps
  split at steps
  · cases steps
    exact .inl rfl
  split at steps
  · exact moves_of_goOn steps
  split at steps
  · cases steps
    exact .inl rfl
  · exact moves_of_closeAfter steps

theorem moves_of_stepBetween (steps : reading.stepBetween = some next) : reading.Moves next := by
  rw [stepBetween] at steps
  split at steps
  · cases steps
    exact .inl rfl
  split at steps
  · exact moves_of_goOn steps
  · exact moves_of_startToken steps

theorem moves_of_stepString {text : List Char}
    (steps : reading.stepString column text = some next) : reading.Moves next := by
  rw [stepString] at steps
  split at steps
  · cases steps
    exact .inl rfl
  split at steps
  · exact moves_of_closeAfter steps
  split at steps
  · exact moves_of_goOn steps
  · exact moves_of_goOn steps

theorem moves_of_stepEscape {text : List Char}
    (steps : reading.stepEscape column text = some next) : reading.Moves next := by
  rw [stepEscape] at steps
  split at steps
  · cases steps
    exact .inl rfl
  split at steps
  · exact moves_of_goOn steps
  · cases steps
    exact .inl rfl

theorem moves_of_stepDollar (steps : reading.stepDollar column = some next) :
    reading.Moves next := by
  rw [stepDollar] at steps
  split at steps
  · obtain ⟨middle, goesOn, rfl⟩ := Option.map_eq_some_iff.mp steps
    have moves : reading.Moves middle := moves_of_goOn goesOn
    exact moves
  · cases steps
    exact .inl rfl

theorem moves_of_step (steps : reading.step source = some next) : reading.Moves next := by
  rw [step] at steps
  split at steps
  · exact moves_of_stepBetween steps
  · exact moves_of_stepString steps
  · exact moves_of_stepEscape steps
  · exact moves_of_stepDollar steps
  · rw [stepName] at steps
    split at steps
    · exact moves_of_goOn steps
    · exact moves_of_closeWith steps
  · simp only [stepNumber] at steps
    split at steps
    · exact moves_of_goOn steps
    split at steps
    · exact moves_of_goOn steps
    · exact moves_of_closeWith steps
  · rw [stepWord] at steps
    split at steps
    · exact moves_of_goOn steps
    · exact moves_of_closeWith steps
  · cases steps
    exact .inl rfl

theorem sound_of_step (sound : reading.cursor.Sound source)
    (steps : reading.step source = some next) : next.cursor.Sound source := by
  rcases moves_of_step steps with same | moved
  · rwa [same]
  · exact sound.advance moved

theorem sound_of_reads (reads : Reads source reading next)
    (sound : reading.cursor.Sound source) : next.cursor.Sound source := by
  induction reads with
  | refl => exact sound
  | tail _ steps ih => exact sound_of_step ih steps

theorem eq_of_reads_of_ended (ended : reading.mode = .ended)
    (reads : Reads source reading next) : next = reading := by
  have stays : reading.step source = some reading := by rw [step, ended]
  induction reads with
  | refl => rfl
  | tail _ steps same =>
    subst same
    exact Option.some.inj (steps.symm.trans stays)

/-- Whatever the machine comes to on the way to an end, it goes on to that end. -/
theorem reads_of_ended {final : Reading} (ended : final.mode = .ended)
    (reads : Reads source reading final) (others : Reads source reading next) :
    Reads source next final := by
  have functional : Relator.RightUnique fun reading next : Reading =>
      reading.step source = some next :=
    fun _ _ _ one other => Option.some.inj (one.symm.trans other)
  rcases Relation.ReflTransGen.total_of_right_unique functional reads others with after | before
  · rw [eq_of_reads_of_ended ended after]
  · exact before

end Reading

/-! ## Tokens -/

section

open Reading

variable {source : String} {before after front cs : List Char} {c : Char} {mode next : Mode}
  {tokens : List Token}

theorem goOn_between (before : List Char) (c : Char) (cs : List Char) (mode next : Mode)
    (tokens : List Token) :
    goOn ⟨.between before (c :: cs), mode, tokens⟩ next =
      some ⟨.between (before ++ [c]) cs, next, tokens⟩ := by
  simp only [goOn, Cursor.advance_between, Option.map_some]

/-- What has been read between two positions. -/
theorem slice?_bytes {middle : List Char} (split : source.toList = before ++ middle ++ after) :
    slice? source (Cursor.bytes before) (Cursor.bytes (before ++ middle)) =
      some (String.ofList middle) := by
  have whole : source = String.ofList before ++ String.ofList middle ++ String.ofList after := by
    rw [← String.ofList_append, ← String.ofList_append, ← split, String.ofList_toList]
  rw [whole, Cursor.bytes, Cursor.bytes, String.ofList_append]
  exact slice?_append _ _ _

/-- The machine goes past characters that leave it as it is. -/
theorem reads_while {p : Char → Bool}
    (stays : ∀ front c rest tokens, p c →
      step source ⟨.between front (c :: rest), mode, tokens⟩ =
        goOn ⟨.between front (c :: rest), mode, tokens⟩ mode)
    (all : ∀ c ∈ front, p c) (before cs : List Char) (tokens : List Token) :
    Reads source ⟨.between before (front ++ cs), mode, tokens⟩
      ⟨.between (before ++ front) cs, mode, tokens⟩ := by
  induction front generalizing before with
  | nil =>
    rw [List.append_nil]
    exact .refl
  | cons c front ih =>
    obtain ⟨holds, others⟩ := List.forall_mem_cons.mp all
    have steps := (stays before c (front ++ cs) tokens holds).trans (goOn_between ..)
    rw [List.append_cons before]
    exact .head steps (ih others (before ++ [c]))

/-- From characters on, the machine reads a lexeme and comes to what is left, unless the lexeme is
the last one. -/
def Yields (source : String) (before cs : List Char) (mode : Mode) (column : Nat)
    (scanned : Lexeme × List Char) : Prop :=
  ∀ tokens, ∃ taken rest, cs = taken ++ rest ∧ (scanned.1.isLast = false → rest = scanned.2) ∧
    Reads source ⟨.between before cs, mode, tokens⟩
      (close ⟨.between (before ++ taken) rest, mode, tokens⟩ scanned.1 column)

variable {column : Nat} {scanned : Lexeme × List Char}

theorem Yields.of_reads
    (reads : ∀ tokens, Reads source ⟨.between before (front ++ cs), mode, tokens⟩
      ⟨.between (before ++ front) cs, next, tokens⟩)
    (yields : Yields source (before ++ front) cs next column scanned) :
    Yields source before (front ++ cs) mode column scanned := by
  intro tokens
  obtain ⟨taken, rest, rfl, left, goesOn⟩ := yields tokens
  refine ⟨front ++ taken, rest, (List.append_assoc front taken rest).symm, left, ?_⟩
  rw [← List.append_assoc before]
  exact (reads tokens).trans goesOn

theorem Yields.of_goOn (next : Mode)
    (steps : ∀ tokens, step source ⟨.between before (c :: cs), mode, tokens⟩ =
      goOn ⟨.between before (c :: cs), mode, tokens⟩ next)
    (yields : Yields source (before ++ [c]) cs next column scanned) :
    Yields source before (c :: cs) mode column scanned := by
  have reads (tokens : List Token) : Reads source ⟨.between before ([c] ++ cs), mode, tokens⟩
      ⟨.between (before ++ [c]) cs, next, tokens⟩ :=
    .single ((steps tokens).trans (goOn_between ..))
  exact .of_reads reads yields

/-- The machine stays where it is, to go on with something else. -/
theorem Yields.of_turn
    (steps : ∀ tokens, step source ⟨.between before cs, mode, tokens⟩ =
      some ⟨.between before cs, next, tokens⟩)
    (yields : Yields source before cs next column scanned) :
    Yields source before cs mode column scanned := by
  intro tokens
  obtain ⟨taken, rest, same, left, goesOn⟩ := yields tokens
  exact ⟨taken, rest, same, left, .head (steps tokens) goesOn⟩

theorem Yields.of_takeWhile {p : Char → Bool}
    (stays : ∀ front c rest tokens, p c →
      step source ⟨.between front (c :: rest), mode, tokens⟩ =
        goOn ⟨.between front (c :: rest), mode, tokens⟩ mode)
    (yields : Yields source (before ++ cs.takeWhile p) (cs.dropWhile p) mode column scanned) :
    Yields source before cs mode column scanned := by
  have all : ∀ c ∈ cs.takeWhile p, p c := fun _ => List.mem_takeWhile_imp
  have whole := Yields.of_reads (reads_while stays all before (cs.dropWhile p)) yields
  rwa [List.takeWhile_append_dropWhile] at whole

/-- The lexeme ends here. -/
theorem Yields.of_close
    (steps : ∀ tokens, step source ⟨.between before cs, mode, tokens⟩ =
      some (close ⟨.between before cs, mode, tokens⟩ scanned.1 column))
    (left : scanned.1.isLast = false → cs = scanned.2) :
    Yields source before cs mode column scanned := by
  intro tokens
  refine ⟨[], cs, rfl, left, ?_⟩
  rw [List.append_nil]
  exact .single (steps tokens)

theorem Yields.of_fault {fault : LexicalFault} {rest : List Char}
    (steps : ∀ tokens, step source ⟨.between before cs, mode, tokens⟩ =
      some (close ⟨.between before cs, mode, tokens⟩ (.fault fault) column)) :
    Yields source before cs mode column (.fault fault, rest) :=
  .of_close steps fun more => by cases more

/-- The lexeme ends with the next character. -/
theorem Yields.of_closeAfter {lexeme : Lexeme}
    (steps : ∀ tokens, step source ⟨.between before (c :: cs), mode, tokens⟩ =
      closeAfter ⟨.between before (c :: cs), mode, tokens⟩ lexeme column) :
    Yields source before (c :: cs) mode column (lexeme, cs) := by
  intro tokens
  refine ⟨[c], cs, rfl, fun _ => rfl, .single ((steps tokens).trans ?_)⟩
  rw [closeAfter, goOn_between]
  rfl

/-! ### Strings -/

/-- The lexeme of a string that goes on after some text. -/
def stringLexeme (text : List Char) : Except LexicalFault (List Char × List Char) →
    Lexeme × List Char
  | .ok (more, rest) => (.string (String.ofList (text ++ more)), rest)
  | .error fault => (.fault fault, [])

theorem stringLexeme_map (text : List Char) (c : Char)
    (scanned : Except LexicalFault (List Char × List Char)) :
    stringLexeme text (scanned.map fun (more, rest) => (c :: more, rest)) =
      stringLexeme (text ++ [c]) scanned := by
  cases scanned with
  | error => rfl
  | ok => simp only [Except.map, stringLexeme, List.append_assoc, List.singleton_append]

theorem step_backslash (source : String) (before cs : List Char) (column : Nat) (text : List Char)
    (tokens : List Token) :
    step source ⟨.between before ('\\' :: cs), .string column text, tokens⟩ =
      goOn ⟨.between before ('\\' :: cs), .string column text, tokens⟩ (.escape column text) := by
  simp only [step, stepString, Cursor.toList_rest_between]
  rfl

theorem yields_string (source : String) (before cs : List Char) (column : Nat) (text : List Char) :
    Yields source before cs (.string column text) column (stringLexeme text (scanString cs)) := by
  fun_induction scanString cs generalizing before text with
  | case1 => exact .of_fault fun _ => rfl
  | case2 => exact .of_goOn _ (step_backslash _ _ _ _ _) (.of_fault fun _ => rfl)
  | case3 rest =>
    rw [stringLexeme, List.append_nil]
    refine .of_closeAfter fun tokens => ?_
    simp only [step, stepString, Cursor.toList_rest_between, if_pos]
  | case4 c rest d escaped ih =>
    rw [stringLexeme_map]
    refine .of_goOn _ (step_backslash _ _ _ _ _) (.of_goOn _ (fun tokens => ?_) (ih _ _))
    simp only [step, stepEscape, Cursor.toList_rest_between, escaped]
  | case5 c rest escaped =>
    refine .of_goOn _ (step_backslash _ _ _ _ _) (.of_fault fun tokens => ?_)
    simp only [step, stepEscape, Cursor.toList_rest_between, escaped]
  | case6 c rest notLast notQuote notEscape ih =>
    rw [stringLexeme_map]
    refine .of_goOn _ (fun tokens => ?_) (ih _ _)
    have unquoted : c ≠ '"' := notQuote
    have unescaped : c ≠ '\\' := by
      rintro rfl
      cases rest with
      | nil => exact notLast rfl rfl
      | cons d rest => exact notEscape d rest rfl rfl
    simp only [step, stepString, Cursor.toList_rest_between, if_neg unquoted, if_neg unescaped]

/-! ### Names and words -/

variable {middle : List Char} {lexeme : String → Lexeme}

theorem Yields.of_closeWith (split : source.toList = before ++ (middle ++ cs))
    (steps : ∀ tokens, step source ⟨.between (before ++ middle) cs, mode, tokens⟩ =
      closeWith ⟨.between (before ++ middle) cs, mode, tokens⟩ source (Cursor.bytes before) lexeme
        column) :
    Yields source (before ++ middle) cs mode column (lexeme (String.ofList middle), cs) := by
  refine .of_close (fun tokens => ?_) fun _ => rfl
  have cut := slice?_bytes (split.trans (List.append_assoc ..).symm)
  rw [steps, closeWith, Cursor.between, cut]
  rfl

/-- After some text, a lexeme goes on as long as its characters do. -/
theorem yields_takeWhile {p : Char → Bool} (split : source.toList = before ++ (middle ++ cs))
    (steps : ∀ front rest tokens, step source ⟨.between front rest, mode, tokens⟩ =
      if rest.head?.any p then goOn ⟨.between front rest, mode, tokens⟩ mode
      else closeWith ⟨.between front rest, mode, tokens⟩ source (Cursor.bytes before) lexeme
        column) :
    Yields source (before ++ middle) cs mode column
      (lexeme (String.ofList (middle ++ cs.takeWhile p)), cs.dropWhile p) := by
  have onward : source.toList = before ++ ((middle ++ cs.takeWhile p) ++ cs.dropWhile p) := by
    rw [List.append_assoc middle, List.takeWhile_append_dropWhile, split]
  refine .of_takeWhile (p := p) (fun front c rest tokens holds => ?_) ?_
  · exact (steps front (c :: rest) tokens).trans (if_pos holds)
  · rw [List.append_assoc]
    refine .of_closeWith onward fun tokens => ?_
    rw [steps, any_head?_dropWhile]
    rfl

theorem yields_name (split : source.toList = before ++ cs) (lexeme : String → Lexeme)
    (column : Nat) :
    Yields source before cs (.name column lexeme (Cursor.bytes before)) column
      (nameLexeme lexeme cs) := by
  have proper : nameLexeme lexeme cs =
      (properName lexeme (String.ofList ([] ++ cs.takeWhile isNameChar)),
        cs.dropWhile isNameChar) := by
    simp [nameLexeme, properName]
  have yields : Yields source (before ++ []) cs (.name column lexeme (Cursor.bytes before)) column
      (properName lexeme (String.ofList ([] ++ cs.takeWhile isNameChar)),
        cs.dropWhile isNameChar) :=
    yields_takeWhile split fun front rest tokens => by
      simp only [step, stepName, Cursor.toList_rest_between]
  rwa [← proper, List.append_nil] at yields

theorem yields_word (split : source.toList = before ++ cs) (column : Nat) :
    Yields source before cs (.word column (Cursor.bytes before)) column
      (wordLexeme (String.ofList (cs.takeWhile isWordChar)), cs.dropWhile isWordChar) := by
  have yields : Yields source (before ++ []) cs (.word column (Cursor.bytes before)) column
      (wordLexeme (String.ofList ([] ++ cs.takeWhile isWordChar)), cs.dropWhile isWordChar) :=
    yields_takeWhile split fun front rest tokens => by
      simp only [step, stepWord, Cursor.toList_rest_between]
  rwa [List.nil_append, List.append_nil] at yields

/-! ### Numbers -/

/-- How a number starts. -/
def sign : Bool → List Char
  | true => ['-']
  | false => []

theorem numeral_sign {d : Char} (digit : d.isDigit) (negative : Bool) (cs : List Char) :
    numeral (String.ofList (sign negative ++ d :: cs)) = (scanNumber negative (d :: cs)).1 := by
  cases negative with
  | true =>
    rw [numeral, String.toList_ofList]
    rfl
  | false =>
    rw [numeral, String.toList_ofList]
    split
    · next digits same =>
      obtain ⟨rfl, -⟩ := List.cons.inj same
      cases digit
    · rfl

section

variable {d e : Char} {rest : List Char} {negative : Bool}

theorem numeral_whole (digit : d.isDigit) (negative : Bool) (cs : List Char) :
    numeral (String.ofList (sign negative ++ (d :: cs).takeWhile Char.isDigit)) =
      intLexeme negative (digitsValue ((d :: cs).takeWhile Char.isDigit)) := by
  have all : ∀ c ∈ (d :: cs).takeWhile Char.isDigit, c.isDigit := fun c => List.mem_takeWhile_imp
  have ends : Ends [] := nofun
  have scanned := ends.scanNumber all negative
  rw [List.append_nil, List.takeWhile_cons_of_pos digit] at scanned
  rw [List.takeWhile_cons_of_pos digit, numeral_sign digit, scanned]

theorem numeral_decimal (digit : d.isDigit) (pointed : e.isDigit) (negative : Bool)
    (cs rest : List Char) :
    numeral (String.ofList (sign negative ++ (d :: cs).takeWhile Char.isDigit ++ ['.'] ++
        (e :: rest).takeWhile Char.isDigit)) =
      .float (Double.ofDecimal negative
        (digitsValue ((d :: cs).takeWhile Char.isDigit ++ (e :: rest).takeWhile Char.isDigit))
        (-((e :: rest).takeWhile Char.isDigit).length)) := by
  have all : ∀ c ∈ (d :: cs).takeWhile Char.isDigit, c.isDigit := fun c => List.mem_takeWhile_imp
  have others : ∀ c ∈ (e :: rest).takeWhile Char.isDigit, c.isDigit :=
    fun c => List.mem_takeWhile_imp
  have nonempty : (e :: rest).takeWhile Char.isDigit ≠ [] := by
    rw [List.takeWhile_cons_of_pos pointed]
    exact List.cons_ne_nil _ _
  have ends : Ends [] := nofun
  have scanned := scanNumber_pointed all others nonempty (ends.stops rfl rfl) negative
  rw [List.append_nil, List.takeWhile_cons_of_pos digit, List.cons_append] at scanned
  rw [List.append_assoc, List.append_assoc, List.singleton_append,
    List.takeWhile_cons_of_pos digit, List.cons_append, numeral_sign digit, scanned]

/-- A number without a point ends with its digits. -/
theorem yields_whole (digit : d.isDigit)
    (split : source.toList =
      before ++ ((sign negative ++ (d :: cs).takeWhile Char.isDigit) ++ rest))
    (noDigit : ¬startsWithDigit rest)
    (unpointed : ¬(rest.head? = some '.' ∧ startsWithDigit rest.tail)) (column : Nat) :
    Yields source (before ++ (sign negative ++ (d :: cs).takeWhile Char.isDigit)) rest
      (.number column (Cursor.bytes before) false) column
      (intLexeme negative (digitsValue ((d :: cs).takeWhile Char.isDigit)), rest) := by
  rw [← numeral_whole digit]
  refine .of_closeWith split fun tokens => ?_
  simp only [step, stepNumber, Cursor.toList_rest_between, if_neg noDigit, true_and,
    if_neg unpointed]

/-- A number with a point ends with the digits after it. -/
theorem yields_decimal (digit : d.isDigit) (pointed : e.isDigit)
    (split : source.toList =
      before ++ ((sign negative ++ (d :: cs).takeWhile Char.isDigit) ++ '.' :: e :: rest))
    (column : Nat) :
    Yields source (before ++ (sign negative ++ (d :: cs).takeWhile Char.isDigit)) ('.' :: e :: rest)
      (.number column (Cursor.bytes before) false) column
      (.float (Double.ofDecimal negative
          (digitsValue ((d :: cs).takeWhile Char.isDigit ++ (e :: rest).takeWhile Char.isDigit))
          (-((e :: rest).takeWhile Char.isDigit).length)),
        (e :: rest).dropWhile Char.isDigit) := by
  have follows : startsWithDigit (e :: rest) := pointed
  have point : ¬startsWithDigit ('.' :: e :: rest) := Bool.false_ne_true
  refine .of_goOn (.number column (Cursor.bytes before) true) (fun tokens => ?_) ?_
  · simp only [step, stepNumber, Cursor.toList_rest_between, if_neg point, List.head?_cons,
      List.tail_cons, follows, and_self, if_true]
  · rw [← numeral_decimal digit pointed, List.append_assoc before]
    refine yields_takeWhile (split.trans (congrArg _ (List.append_cons ..))) fun _ _ _ => ?_
    simp only [step, stepNumber, Cursor.toList_rest_between, startsWithDigit_eq_any,
      Bool.true_eq_false, false_and, and_false, if_false]

theorem yields_number (negative : Bool) (digit : d.isDigit)
    (split : source.toList = before ++ (sign negative ++ d :: cs)) (column : Nat) :
    Yields source (before ++ sign negative) (d :: cs)
      (.number column (Cursor.bytes before) false) column (scanNumber negative (d :: cs)) := by
  have noDigit : ¬startsWithDigit ((d :: cs).dropWhile Char.isDigit) := by
    rw [startsWithDigit_eq_any, any_head?_dropWhile]
    exact Bool.false_ne_true
  have onward : source.toList = before ++
      ((sign negative ++ (d :: cs).takeWhile Char.isDigit) ++
        (d :: cs).dropWhile Char.isDigit) := by
    rw [List.append_assoc, List.takeWhile_append_dropWhile, split]
  refine .of_takeWhile (p := Char.isDigit) (fun front c rest tokens holds => ?_) ?_
  · have digits : startsWithDigit (c :: rest) := holds
    simp only [step, stepNumber, Cursor.toList_rest_between, if_pos digits]
  rw [List.append_assoc, scanNumber]
  generalize (d :: cs).dropWhile Char.isDigit = rest at noDigit onward
  split
  · split
    · next pointed => exact yields_decimal digit pointed onward column
    · next unpointed =>
      exact yields_whole digit onward noDigit (fun both => unpointed both.2) column
  · next unpointed =>
    refine yields_whole digit onward noDigit ?_ column
    rintro ⟨point, digits⟩
    rcases rest with _ | ⟨c, _ | ⟨d, rest⟩⟩
    · cases point
    · cases digits
    · exact unpointed d rest (congrArg (· :: d :: rest) (Option.some.inj point))

end

/-! ### Every token -/

theorem yields_variable (split : source.toList = before ++ cs) (column : Nat) :
    Yields source before cs (.dollar column) column (scanVariable cs) := by
  fun_cases scanVariable cs with
  | case1 rest =>
    have onward : source.toList = (before ++ ['$']) ++ rest := split.trans (List.append_cons ..)
    refine .of_goOn (.name column .static (Cursor.bytes (before ++ ['$'])))
      (fun tokens => ?_) (yields_name onward .static column)
    simp only [step, stepDollar, Cursor.toList_rest_between, goOn_between, Option.map_some,
      Cursor.position_between]
  | case2 cs plain =>
    refine .of_turn (fun tokens => ?_) (yields_name split .reactive column)
    simp only [step, stepDollar, Cursor.toList_rest_between, Cursor.position_between]

/-- From a character on that is not blank, the machine reads the lexeme that starts there. -/
theorem yields_scan (split : source.toList = before ++ c :: cs) (visible : ¬Text.isBlank c) :
    Yields source before (c :: cs) .between (before.length + 1) (scan c cs) := by
  have starts (tokens : List Token) :
      step source ⟨.between before (c :: cs), .between, tokens⟩ =
        startToken ⟨.between before (c :: cs), .between, tokens⟩ c cs := by
    simp only [step, stepBetween, Cursor.toList_rest_between, if_neg visible]
  simp only [startToken, Cursor.column_between, Cursor.position_between] at starts
  have onward : source.toList = (before ++ [c]) ++ cs := split.trans (List.append_cons ..)
  rw [scan]
  split
  · next opening => exact .of_closeAfter fun tokens => by rw [starts, if_pos opening]
  next noOpening =>
  simp only [if_neg noOpening] at starts
  split
  · next closing => exact .of_closeAfter fun tokens => by rw [starts, if_pos closing]
  next noClosing =>
  simp only [if_neg noClosing] at starts
  split
  · next quote =>
    have scanned := yields_string source (before ++ [c]) cs (before.length + 1) []
    refine .of_goOn _ (fun tokens => by rw [starts, if_pos quote]) ?_
    convert scanned using 1
    cases scanString cs <;> rfl
  next noQuote =>
  simp only [if_neg noQuote] at starts
  split
  · next dollar =>
    exact .of_goOn _ (fun tokens => by rw [starts, if_pos dollar]) (yields_variable onward _)
  next noDollar =>
  simp only [if_neg noDollar] at starts
  split
  · next digit =>
    have scanned := yields_number false digit split (before.length + 1)
    rw [sign, List.append_nil] at scanned
    exact .of_turn (fun tokens => by rw [starts, if_pos digit]) scanned
  next noDigit =>
  simp only [if_neg noDigit] at starts
  split
  · next negative =>
    obtain ⟨rfl, digits⟩ := negative
    cases cs with
    | nil => cases digits
    | cons d cs =>
      have scanned := yields_number true digits split (before.length + 1)
      exact .of_goOn _ (fun tokens => by rw [starts, if_pos ⟨rfl, digits⟩]) scanned
  next noNumber =>
  simp only [if_neg noNumber] at starts
  split
  · next word =>
    have scanned := yields_word split (before.length + 1)
    rw [List.takeWhile_cons_of_pos word, List.dropWhile_cons_of_pos word] at scanned
    exact .of_turn (fun tokens => by rw [starts, if_pos word]) scanned
  · next noWord => exact .of_closeAfter fun tokens => by rw [starts, if_neg noWord]

/-! ### All tokens -/

theorem reads_blanks (source : String) (blank : ∀ c ∈ front, Text.isBlank c)
    (before cs : List Char) (tokens : List Token) :
    Reads source ⟨.between before (front ++ cs), .between, tokens⟩
      ⟨.between (before ++ front) cs, .between, tokens⟩ := by
  refine reads_while (fun front c rest tokens blank => ?_) blank before cs tokens
  simp only [step, stepBetween, Cursor.toList_rest_between, if_pos blank]

theorem isBlank_of_mem_takeWhile (text : List Char) :
    ∀ c ∈ text.takeWhile Text.isBlank, Text.isBlank c := fun _ => List.mem_takeWhile_imp

theorem not_isBlank_of_dropWhile {text : List Char}
    (visible : text.dropWhile Text.isBlank = c :: cs) : ¬Text.isBlank c := by
  have stopped := any_head?_dropWhile Text.isBlank text
  rw [visible] at stopped
  exact Bool.eq_false_iff.mp stopped

/-- The machine goes past the blanks and reads the lexeme after them. The tokens that follow are
told from the column where it then stands. -/
theorem reads_scan {text : List Char} (split : source.toList = before ++ text)
    (visible : text.dropWhile Text.isBlank = c :: cs) (tokens : List Token) :
    let start := before.length + 1 + (text.takeWhile Text.isBlank).length
    ∃ taken rest, text = taken ++ rest ∧
      ((scan c cs).1.isLast = false → rest = (scan c cs).2 ∧
        start + 1 + (cs.length - rest.length) = (before ++ taken).length + 1) ∧
      Reads source ⟨.between before text, .between, tokens⟩
        (close ⟨.between (before ++ taken) rest, .between, tokens⟩ (scan c cs).1 start) := by
  have parts : text.takeWhile Text.isBlank ++ c :: cs = text := by
    rw [← visible, List.takeWhile_append_dropWhile]
  have onward : source.toList = (before ++ text.takeWhile Text.isBlank) ++ c :: cs := by
    rw [List.append_assoc, parts, split]
  have blanks := reads_blanks source (isBlank_of_mem_takeWhile text) before (c :: cs) tokens
  rw [parts] at blanks
  obtain ⟨taken, rest, same, left, reads⟩ :=
    yields_scan onward (not_isBlank_of_dropWhile visible) tokens
  refine ⟨text.takeWhile Text.isBlank ++ taken, rest, ?_, fun more => ⟨left more, ?_⟩, ?_⟩
  · rw [List.append_assoc, ← same, parts]
  · have total := congrArg List.length same
    have shorter : rest.length ≤ cs.length := left more ▸ length_scan_le c cs
    simp only [List.length_append, List.length_cons] at total ⊢
    omega
  · rw [List.length_append, Nat.add_right_comm] at reads
    rw [← List.append_assoc]
    exact blanks.trans reads

/-- Between two tokens, the machine goes on to the tokens of the rest and ends. -/
theorem reads_tokensFrom (source : String) (first : Nat) (text : List Char) :
    ∀ before tokens, source.toList = before ++ text → first = before.length + 1 →
      ∃ final : Reading, final.mode = .ended ∧ final.tokens = tokens ++ tokensFrom first text ∧
        Reads source ⟨.between before text, .between, tokens⟩ final := by
  fun_induction tokensFrom first text with
  | case1 first text start blank =>
    rintro before tokens split rfl
    have parts := List.takeWhile_append_dropWhile (p := Text.isBlank) (l := text)
    have reads := reads_blanks source (isBlank_of_mem_takeWhile text) before [] tokens
    rw [← blank, parts, blank] at reads
    have place : start = (before ++ text.takeWhile Text.isBlank).length + 1 := by
      rw [List.length_append, Nat.add_right_comm]
    refine ⟨_, rfl, ?_, reads.tail rfl⟩
    rw [place]
    rfl
  | case2 first text start c cs visible scanned token last =>
    rintro before tokens split rfl
    obtain ⟨taken, rest, -, -, reads⟩ := reads_scan split visible tokens
    exact ⟨_, if_pos last, rfl, reads⟩
  | case3 first text start c cs visible scanned token more ih =>
    rintro before tokens split rfl
    obtain ⟨taken, rest, parts, left, reads⟩ := reads_scan split visible tokens
    obtain ⟨rfl, counted⟩ := left (Bool.eq_false_iff.mpr more)
    have onward : source.toList = (before ++ taken) ++ scanned.2 := by
      rw [List.append_assoc, ← parts, split]
    obtain ⟨final, ended, listed, goesOn⟩ := ih _ (tokens ++ [token]) onward counted
    refine ⟨final, ended, listed.trans (List.append_assoc ..), reads.trans ?_⟩
    rwa [close, if_neg more]

end

end DialogueEngine.Script
