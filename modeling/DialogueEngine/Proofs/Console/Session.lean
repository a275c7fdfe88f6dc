import DialogueEngine.Proofs.Console.Speech

/-!
# Console sessions

The console drives an engine as one may drive it directly, and delivers what is written meanwhile,
once and in order, in front of the reply to each line. Between two lines the transcript is empty.
-/

namespace DialogueEngine

variable {σ τ : Type}

/-- A word is an unsigned number of 64 bits, in decimal digits and possibly with a plus sign. -/
def IsCount (word : String) : Prop :=
  ∃ digits : List Char, (word.toList = digits ∨ word.toList = '+' :: digits) ∧ digits ≠ [] ∧
    (∀ c ∈ digits, c.isDigit) ∧ digitsValue digits < 0x10000000000000000

theorem isSome_digitsCount?_iff (digits : List Char) :
    (digitsCount? digits).isSome ↔
      digits ≠ [] ∧ (∀ c ∈ digits, c.isDigit) ∧ digitsValue digits < 0x10000000000000000 := by
  rw [digitsCount?]
  have refused : (digits.isEmpty || !digits.all Char.isDigit) ↔
      ¬ (digits ≠ [] ∧ ∀ c ∈ digits, c.isDigit) := by
    rw [Bool.or_eq_true, Bool.not_eq_true', List.isEmpty_iff, ← Bool.not_eq_true, List.all_eq_true,
      not_and_or, not_not]
  by_cases shape : digits ≠ [] ∧ ∀ c ∈ digits, c.isDigit
  · rw [if_neg (refused.not.mpr (not_not.mpr shape)), ← and_assoc, and_iff_right shape]
    simp
  · rw [if_pos (refused.mpr shape), ← and_assoc]
    simp [shape]

theorem isSome_readCount?_iff (word : String) : (readCount? word).isSome ↔ IsCount word := by
  rw [readCount?, IsCount]
  split
  · next digits signed =>
    rw [isSome_digitsCount?_iff, signed]
    constructor
    · intro counts
      exact ⟨digits, .inr rfl, counts⟩
    · rintro ⟨others, same | same, counts⟩
      · -- A plus sign is no digit.
        subst same
        exact absurd (counts.2.1 '+' List.mem_cons_self) (by decide)
      · cases same
        exact counts
  · next digits unsigned =>
    rw [isSome_digitsCount?_iff]
    constructor
    · intro counts
      exact ⟨_, .inl rfl, counts⟩
    · rintro ⟨others, same | same, counts⟩
      · rw [same]
        exact counts
      · exact absurd same (unsigned others)

namespace Console

/-! ## What a line is about -/

/-- What a word asks an engine to execute. -/
def requestOf? : String → Option Request
  | "step" | "s" => some .step
  | "next" | "n" => some .stepSingle
  | "run" | "r" => some .run
  | "unlock" => some .unlock
  | _ => none

/-- What a word does to an engine without executing anything. -/
def operationOf? : String → Option (Operation σ)
  | "lock" => some .lock
  | "reset" => some .reset
  | _ => none

def request? (line : String) : Option Request := (Text.words line).head?.bind requestOf?

def operation? (line : String) : Option (Operation σ) := (Text.words line).head?.bind operationOf?

/-- A line asks for a number of trace records, and that is none. -/
def Miscounts (line : String) : Prop :=
  ∃ word more, Text.words line = "trace" :: word :: more ∧ ¬ IsCount word

end Console

namespace Command

def request? : Command → Option Request
  | step => some .step
  | next => some .stepSingle
  | run => some .run
  | unlock => some .unlock
  | _ => none

def operation? : Command → Option (Operation σ)
  | lock => some .lock
  | reset => some .reset
  | _ => none

theorem requestOf?_eq (word : String) (rest : List String) :
    Console.requestOf? word = (ofWords (word :: rest)).toOption.bind request? := by
  unfold ofWords
  dsimp only
  split
  case h_11 => cases traceCount rest.head? <;> rfl
  case h_21 =>
    unfold Console.requestOf?
    split
    all_goals first | rfl | contradiction
  all_goals rfl

theorem operationOf?_eq (word : String) (rest : List String) :
    Console.operationOf? (σ := σ) word = (ofWords (word :: rest)).toOption.bind operation? := by
  unfold ofWords
  dsimp only
  split
  case h_11 => cases traceCount rest.head? <;> rfl
  case h_21 =>
    unfold Console.operationOf?
    split
    all_goals first | rfl | contradiction
  all_goals rfl

theorem request?_ofLine (line : String) :
    Console.request? line = (ofLine line).toOption.bind request? := by
  rw [Console.request?, ofLine]
  cases Text.words line with
  | nil => rfl
  | cons word rest => exact requestOf?_eq word rest

theorem operation?_ofLine (line : String) :
    Console.operation? (σ := σ) line = (ofLine line).toOption.bind operation? := by
  rw [Console.operation?, ofLine]
  cases Text.words line with
  | nil => rfl
  | cons word rest => exact operationOf?_eq word rest

theorem traceCount_error_iff (word : Option String) :
    (∃ failure, traceCount word = .error failure) ↔
      ∃ given, word = some given ∧ ¬ IsCount given := by
  cases word with
  | none => simp [traceCount]
  | some word =>
    have counts := isSome_readCount?_iff word
    rw [traceCount]
    cases count : readCount? word with
    | none => simp_all
    | some n => simp_all

theorem ofWords_trace_error_iff (rest : List String) :
    (∃ failure, ofWords ("trace" :: rest) = .error failure) ↔
      ∃ word more, rest = word :: more ∧ ¬ IsCount word := by
  have counted := traceCount_error_iff rest.head?
  have read : ofWords ("trace" :: rest) = (traceCount rest.head?).map trace := rfl
  rw [read]
  cases count : traceCount rest.head? with
  | error failure =>
    obtain ⟨word, first, miscounted⟩ := counted.mp ⟨failure, count⟩
    obtain ⟨more, split⟩ := List.head?_eq_some_iff.mp first
    exact iff_of_true ⟨failure, rfl⟩ ⟨word, more, split, miscounted⟩
  | ok n =>
    refine iff_of_false (fun ⟨_, refused⟩ => nomatch refused) ?_
    rintro ⟨word, more, rfl, miscounted⟩
    obtain ⟨failure, refused⟩ := counted.mpr ⟨word, rfl, miscounted⟩
    cases count.symm.trans refused

theorem ofLine_error_iff (line : String) :
    (∃ failure, ofLine line = .error failure) ↔ Console.Miscounts line := by
  rw [ofLine, Console.Miscounts]
  cases Text.words line with
  | nil => simp [ofWords]
  | cons word rest =>
    by_cases trace : word = "trace"
    · simp only [trace, ofWords_trace_error_iff, List.cons.injEq, true_and]
    · have accepted : ¬ ∃ failure, ofWords (word :: rest) = .error failure := by
        rintro ⟨failure, refused⟩
        unfold ofWords at refused
        dsimp only at refused
        split at refused
        case h_11 => contradiction
        all_goals cases refused
      simp [accepted, trace]

end Command

namespace Console

variable {line : String} {e after : Engine (Stage τ)}

/-! ## Lines one after the other -/

/-- An engine is driven directly as a line has it. -/
inductive Drives (line : String) (e : Engine σ) : Engine σ → Prop where
  | request {request : Request} {result : Except Failure (Option StepOutcome)} {after : Engine σ}
      (asked : request? line = some request) (answers : e.Answers request result after) :
      Drives line e after
  | operation {operation : Operation σ} (meant : operation? line = some operation) :
      Drives line e (e.perform operation)
  | nothing (unasked : request? line = none) (unmeant : operation? (σ := σ) line = none) :
      Drives line e e

/-- An engine is driven directly as some lines have it. -/
inductive Driven : Engine σ → List String → Engine σ → Prop where
  | nil (e : Engine σ) : Driven e [] e
  | cons {line : String} {lines : List String} {e middle after : Engine σ}
      (drives : Drives line e middle) (rest : Driven middle lines after) :
      Driven e (line :: lines) after

/-- The console executes a line, with some fuel. -/
def Executes (line : String) (e : Engine (Stage τ)) (reply : Except Failure Reply)
    (after : Engine (Stage τ)) : Prop :=
  ∃ fuel, executeLine fuel line e = some (reply, after)

/-- The console executes some lines and replies to each. -/
inductive Session : Engine (Stage τ) → List String → List (Except Failure Reply) →
    Engine (Stage τ) → Prop where
  | nil (e : Engine (Stage τ)) : Session e [] [] e
  | cons {line : String} {lines : List String} {reply : Except Failure Reply}
      {replies : List (Except Failure Reply)} {e middle after : Engine (Stage τ)}
      (executes : Executes line e reply middle) (rest : Session middle lines replies after) :
      Session e (line :: lines) (reply :: replies) after

/-- How a request has ended that was answered so, with the engine at a position. -/
def statusText (position : Nat) : Except Failure (Option StepOutcome) → String
  | .ok none => "engine unlocked"
  | .ok (some outcome) => outcomeText position outcome
  | .error failure => failureText failure

section Line

variable {fuel : Nat} {request : Request} {reply : Except Failure Reply}

/-- Only unlocking may have no outcome, and then nothing has been executed. -/
theorem eq_unlock_of_answer (answered : e.answer fuel request = some (.ok none, after)) :
    after = e.steer Control.unlock := by
  obtain ⟨completed, course⟩ := Engine.requestCourse_of_answer answered
  generalize same : (.ok none : Except Failure (Option StepOutcome)) = outcome at course
  cases course with
  | released => rfl
  | @step _ _ _ result | @stepSingle _ _ _ result | @run _ _ _ result | @replayed _ _ _ _ result =>
    cases result <;> cases same

/-- What has been written stands in front of the status, and the transcript is empty then. -/
theorem ask_eq (empty : e.lines = []) :
    ask fuel request e = (e.answer fuel request).map fun answer =>
      (.text (unlines answer.2.lines ++ statusText answer.2.control.position answer.1),
        answer.2.withTranscript {}) := by
  rw [ask]
  cases answered : e.answer fuel request with
  | none => rfl
  | some answer =>
    obtain ⟨_ | _ | outcome, last⟩ := answer
    · rfl
    · have unlocked := eq_unlock_of_answer answered
      have quiet : last.lines = [] := by
        rw [unlocked]
        exact empty
      simp only [Option.map_some, quiet, Engine.withTranscript_empty quiet]
      rfl
    · rfl

theorem executeLine_of_request (asked : request? line = some request) :
    executeLine fuel line e = (ask fuel request e).map fun reply => (.ok reply.1, reply.2) := by
  rw [Command.request?_ofLine] at asked
  rw [executeLine]
  cases read : Command.ofLine line with
  | error failure => simp [read, Except.toOption] at asked
  | ok command =>
    rw [read] at asked
    cases command <;> cases asked <;> rfl

theorem executeLine_of_operation (fuel : Nat) (e : Engine (Stage τ))
    {operation : Operation (Stage τ)} (meant : operation? line = some operation) :
    ∃ reply, executeLine fuel line e = some (reply, e.perform operation) := by
  rw [Command.operation?_ofLine] at meant
  rw [executeLine]
  cases read : Command.ofLine line with
  | error failure => simp [read, Except.toOption] at meant
  | ok command =>
    rw [read] at meant
    cases command <;> cases meant <;> exact ⟨_, rfl⟩

theorem executeLine_of_nothing (fuel : Nat) (e : Engine (Stage τ))
    (unasked : request? line = none) (unmeant : operation? (σ := Stage τ) line = none) :
    ∃ reply, executeLine fuel line e = some (reply, e) := by
  rw [Command.request?_ofLine] at unasked
  rw [Command.operation?_ofLine] at unmeant
  rw [executeLine]
  cases read : Command.ofLine line with
  | error failure => exact ⟨_, rfl⟩
  | ok command =>
    rw [read] at unasked unmeant
    cases command with
    | step | next | run | unlock => cases unasked
    | lock | reset => cases unmeant
    | _ => exact ⟨_, rfl⟩

theorem staged_perform {operation : Operation (Stage τ)} (staged : e.Staged)
    (meant : operation? line = some operation) : (e.perform operation).Staged := by
  rw [Command.operation?_ofLine] at meant
  obtain ⟨command, -, means⟩ := Option.bind_eq_some_iff.mp meant
  cases command <;> cases means <;> exact staged.steer _

/-- A line is refused if its command cannot be read. -/
theorem Executes.refuses (executes : Executes line e reply after) :
    (∃ failure, reply = .error failure) ↔ Miscounts line := by
  obtain ⟨fuel, executed⟩ := executes
  rw [← Command.ofLine_error_iff]
  rw [executeLine] at executed
  cases read : Command.ofLine line with
  | error failure =>
    rw [read] at executed
    cases executed
    exact iff_of_true ⟨failure, rfl⟩ ⟨failure, rfl⟩
  | ok command =>
    rw [read] at executed
    obtain ⟨answer, -, same⟩ := Option.map_eq_some_iff.mp executed
    cases same
    exact iff_of_false (fun ⟨_, refused⟩ => nomatch refused) fun ⟨_, refused⟩ => nomatch refused

/-- The console does what is done directly, and takes what has been written. -/
theorem Executes.drives (executes : Executes line e reply after) (staged : e.Staged)
    (empty : e.lines = []) (transcript : Transcript) :
    after.Staged ∧ after.lines = [] ∧
      ∃ more, Drives line (e.withTranscript transcript) (after.withTranscript more) := by
  obtain ⟨fuel, executed⟩ := executes
  cases asked : request? line with
  | some request =>
    rw [executeLine_of_request asked, ask_eq empty] at executed
    obtain ⟨_, told, same⟩ := Option.map_eq_some_iff.mp executed
    obtain ⟨⟨result, last⟩, answered, rfl⟩ := Option.map_eq_some_iff.mp told
    cases same
    obtain ⟨still, more, answers⟩ := staged.answers ⟨fuel, answered⟩ transcript
    exact ⟨still.withTranscript {}, rfl, more, .request asked answers⟩
  | none =>
    cases meant : operation? (σ := Stage τ) line with
    | some operation =>
      obtain ⟨_, acted⟩ := executeLine_of_operation fuel e meant
      cases executed.symm.trans acted
      refine ⟨staged_perform staged meant, ?_, transcript, ?_⟩
      · rw [Engine.lines_perform, empty]
      · rw [← Engine.perform_withTranscript]
        exact .operation meant
    | none =>
      obtain ⟨_, idle⟩ := executeLine_of_nothing fuel e asked meant
      cases executed.symm.trans idle
      exact ⟨staged, empty, transcript, .nothing asked meant⟩

/-- What is done directly, the console does. -/
theorem Drives.executes {transcript : Transcript} (staged : e.Staged) (empty : e.lines = [])
    (drives : Drives line (e.withTranscript transcript) after) :
    ∃ reply, Executes line e reply (after.withTranscript {}) := by
  cases drives with
  | @request request result _ asked answers =>
    obtain ⟨-, more, fuel, answered⟩ := (staged.withTranscript transcript).answers answers {}
    rw [Engine.withTranscript_withTranscript, Engine.withTranscript_empty empty] at answered
    have executed : executeLine fuel line e = _ := executeLine_of_request asked
    rw [ask_eq empty, answered] at executed
    exact ⟨_, fuel, executed⟩
  | @operation operation meant =>
    obtain ⟨reply, acted⟩ := executeLine_of_operation 0 e meant
    refine ⟨reply, 0, ?_⟩
    rw [Engine.perform_withTranscript, Engine.withTranscript_withTranscript,
      Engine.withTranscript_empty ((e.lines_perform operation).trans empty)]
    exact acted
  | nothing unasked unmeant =>
    obtain ⟨reply, idle⟩ := executeLine_of_nothing 0 e unasked unmeant
    refine ⟨reply, 0, ?_⟩
    rw [Engine.withTranscript_withTranscript, Engine.withTranscript_empty empty]
    exact idle

end Line

/-! ## Sessions -/

variable {lines : List String}

theorem Session.driven {replies : List (Except Failure Reply)}
    (session : Session e lines replies after) (staged : e.Staged) (empty : e.lines = [])
    (transcript : Transcript) :
    after.Staged ∧ after.lines = [] ∧
      ∃ more, Driven (e.withTranscript transcript) lines (after.withTranscript more) := by
  induction session generalizing transcript with
  | nil e => exact ⟨staged, empty, transcript, .nil _⟩
  | cons executes _ ih =>
    obtain ⟨staged, empty, more, drives⟩ := executes.drives staged empty transcript
    obtain ⟨staged, empty, last, driven⟩ := ih staged empty more
    exact ⟨staged, empty, last, .cons drives driven⟩

theorem Driven.session {f : Engine (Stage τ)} (driven : Driven f lines after) (staged : e.Staged)
    (empty : e.lines = []) {transcript : Transcript} (same : f = e.withTranscript transcript) :
    ∃ replies, Session e lines replies (after.withTranscript {}) := by
  induction driven generalizing e transcript with
  | nil f =>
    rw [same, Engine.withTranscript_withTranscript, Engine.withTranscript_empty empty]
    exact ⟨[], .nil e⟩
  | @cons _ _ f middle _ drives _ ih =>
    subst same
    obtain ⟨reply, executes⟩ := drives.executes staged empty
    obtain ⟨still, emptied, -⟩ := executes.drives staged empty transcript
    obtain ⟨replies, session⟩ := ih still emptied middle.withTranscript_self.symm
    exact ⟨reply :: replies, .cons executes session⟩

end Console

end DialogueEngine
