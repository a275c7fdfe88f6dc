import DialogueEngine.Proofs.Script.Flattening
import DialogueEngine.Proofs.Script.Tokens

/-!
# Reading an expression back

The tokens of a text are taken one, or with an opening parenthesis two, at a time. What has been
taken is at each point what the open calls and their arguments so far are written with, so a text
is read as a node exactly if it is written like it.
-/

namespace DialogueEngine.Script

theorem Operator.symbol_of_ofSymbol? {word : String} {operator : Operator}
    (known : ofSymbol? word = some operator) : operator.symbol = word := by
  rw [ofSymbol?] at known
  have same := List.find?_some known
  exact of_decide_eq_true same

/-- The tokens that are taken together, what they make of the open calls, and what is left. -/
inductive Takes : List OpenCall → List Token → Progress → List Token → Prop where
  | leaf {calls : List OpenCall} {lexeme : Lexeme} {node : Node} {column : Nat}
      {rest : List Token} (alone : lexeme.leaf? = some node) :
      Takes calls (⟨lexeme, column⟩ :: rest) (Progress.deliver node calls) rest
  | opening {calls : List OpenCall} {operator : Operator} {column wordColumn : Nat}
      {rest : List Token} (free : calls.length ≠ maxNesting) :
      Takes calls (⟨.opening, column⟩ :: ⟨.word operator.symbol, wordColumn⟩ :: rest)
        (.within (⟨operator, [], column⟩ :: calls)) rest
  | closing {call : OpenCall} {outer : List OpenCall} {column : Nat} {rest : List Token} :
      Takes (call :: outer) (⟨.closing, column⟩ :: rest) (Progress.deliver call.close outer) rest

section

variable {calls : List OpenCall} {taken rest : List Token} {progress : Progress}

theorem readTokens_of_takes (takes : Takes calls taken progress rest) :
    readTokens (.within calls) taken = readTokens progress rest := by
  cases takes with
  | @leaf _ lexeme _ _ _ alone => cases lexeme <;> cases alone <;> simp [readTokens, Lexeme.leaf?]
  | opening free => simp [readTokens, free]
  | closing => rw [readTokens]

/-- Where no tokens can be taken, the reading fails at one of them or at an open call. -/
theorem takes_or_fails (calls : List OpenCall) (tokens : List Token) :
    (∃ progress rest, Takes calls tokens progress rest) ∨
      ∃ problem, readTokens (.within calls) tokens = .error problem ∧
        problem.column ∈ 1 :: (calls.map OpenCall.column ++ tokens.map Token.column) := by
  cases tokens with
  | nil => exact .inr ⟨_, by rw [readTokens], by simp⟩
  | cons token rest =>
    obtain ⟨lexeme, column⟩ := token
    cases lexeme with
    | nil | bool | int | float | string | reactive | static => exact .inl ⟨_, _, .leaf rfl⟩
    | word | fault => exact .inr ⟨_, by rw [readTokens.eq_def]; rfl, by simp⟩
    | closing =>
      cases calls with
      | nil => exact .inr ⟨_, by rw [readTokens.eq_def]; rfl, by simp⟩
      | cons call outer => exact .inl ⟨_, _, .closing⟩
    | finish =>
      cases calls with
      | nil => exact .inr ⟨_, by rw [readTokens.eq_def]; rfl, by simp⟩
      | cons call outer => exact .inr ⟨_, by rw [readTokens], by simp⟩
    | opening =>
      by_cases free : calls.length = maxNesting
      · exact .inr ⟨_, by rw [readTokens.eq_def]; exact if_pos free, by simp⟩
      rcases rest with _ | ⟨⟨head, headColumn⟩, rest⟩
      · exact .inr ⟨⟨.unclosedCall, column⟩, by simp [readTokens, free], by simp⟩
      cases head with
      | word w =>
        cases known : Operator.ofSymbol? w with
        | none =>
          exact .inr ⟨⟨.unknownOperator w, headColumn⟩, by simp [readTokens, free, known], by simp⟩
        | some operator =>
          rw [← Operator.symbol_of_ofSymbol? known]
          exact .inl ⟨_, _, .opening free⟩
      | finish => exact .inr ⟨⟨.unclosedCall, column⟩, by simp [readTokens, free], by simp⟩
      | _ => exact .inr ⟨⟨.missingOperator, headColumn⟩, by simp [readTokens, free], by simp⟩

theorem Takes.length_lt (takes : Takes calls taken progress rest) :
    rest.length < taken.length := by
  cases takes <;> simp only [List.length_cons] <;> omega

end

/-! ## What has been taken -/

/-- What an open call is written with so far. -/
def OpenCall.flatten (call : OpenCall) : List Lexeme :=
  .opening :: .word call.operator.symbol :: Node.flattenList call.reversedArgs.reverse

namespace Progress

/-- What is written for all that has been read. Calls further out come first. -/
def flatten : Progress → List Lexeme
  | within calls => calls.reverse.flatMap OpenCall.flatten
  | complete node => node.flatten

/-- The calls that are open. -/
def calls : Progress → List OpenCall
  | within calls => calls
  | complete _ => []

end Progress

theorem OpenCall.flatten_add (call : OpenCall) (node : Node) :
    (call.add node).flatten = call.flatten ++ node.flatten := by
  simp [flatten, add, Node.flattenList_append, Node.flattenList]

theorem OpenCall.flatten_close (call : OpenCall) :
    call.close.flatten = call.flatten ++ [.closing] := rfl

theorem Progress.flatten_cons (call : OpenCall) (outer : List OpenCall) :
    (within (call :: outer)).flatten = (within outer).flatten ++ call.flatten := by
  simp [flatten]

theorem Progress.flatten_deliver (node : Node) (calls : List OpenCall) :
    (deliver node calls).flatten = (within calls).flatten ++ node.flatten := by
  cases calls with
  | nil => rfl
  | cons call outer =>
    rw [deliver, flatten_cons, flatten_cons, OpenCall.flatten_add, List.append_assoc]

theorem Progress.forall_mem_deliver {inside : Nat → Prop} {node : Node} {calls : List OpenCall}
    (opened : ∀ call ∈ calls, inside call.column) :
    ∀ call ∈ (deliver node calls).calls, inside call.column := by
  cases calls with
  | nil =>
    intro call mem
    cases mem
  | cons call outer =>
    obtain ⟨column, others⟩ := List.forall_mem_cons.mp opened
    exact List.forall_mem_cons.mpr ⟨column, others⟩

/-- A node that can be an argument under a number of calls. -/
def Node.FitsUnder (depth : Nat) (node : Node) : Prop :=
  node.Plain ∧ node.nesting + depth ≤ maxNesting

/-- The arguments of open calls have lexemes, and are not nested too deeply where they stand. -/
def OpenCall.Fit : List OpenCall → Prop
  | [] => True
  | call :: outer =>
      outer.length < maxNesting ∧
        (∀ arg ∈ call.reversedArgs, arg.FitsUnder (outer.length + 1)) ∧ Fit outer

def Progress.Fits : Progress → Prop
  | within calls => OpenCall.Fit calls
  | complete node => node.FitsUnder 0

theorem OpenCall.Fit.length_le {calls : List OpenCall} (fit : Fit calls) :
    calls.length ≤ maxNesting := by
  cases calls with
  | nil => exact Nat.zero_le _
  | cons call outer => exact fit.1

theorem OpenCall.Fit.fits_deliver {node : Node} {calls : List OpenCall} (fit : Fit calls)
    (fits : node.FitsUnder calls.length) : (Progress.deliver node calls).Fits := by
  cases calls with
  | nil => exact fits
  | cons call outer =>
    refine ⟨fit.1, ?_, fit.2.2⟩
    rintro arg (_ | ⟨_, listed⟩)
    · exact fits
    · exact fit.2.1 arg listed

theorem OpenCall.Fit.close {call : OpenCall} {outer : List OpenCall} (fit : Fit (call :: outer)) :
    call.close.FitsUnder outer.length := by
  obtain ⟨free, args, -⟩ := fit
  constructor
  · refine Node.plainList_iff.mpr fun arg listed => ?_
    exact (args arg (List.mem_reverse.mp listed)).1
  · have nested : Node.nestingList call.reversedArgs.reverse ≤ maxNesting - (outer.length + 1) := by
      refine Node.nestingList_le_iff.mpr fun arg listed => ?_
      exact Nat.le_sub_of_add_le (args arg (List.mem_reverse.mp listed)).2
    rw [OpenCall.close, Node.nesting]
    omega

section

variable {calls : List OpenCall} {taken rest : List Token} {progress : Progress}

/-- What is taken is what is read. -/
theorem Takes.written (takes : Takes calls taken progress rest) :
    progress.flatten ++ rest.map Token.lexeme =
      (Progress.within calls).flatten ++ taken.map Token.lexeme := by
  cases takes with
  | leaf alone =>
    obtain ⟨-, written, -⟩ := Lexeme.flatten_of_leaf? alone
    rw [Progress.flatten_deliver, written, List.append_assoc]
    rfl
  | opening free =>
    rw [Progress.flatten_cons, List.append_assoc]
    rfl
  | closing =>
    rw [Progress.flatten_deliver, OpenCall.flatten_close, Progress.flatten_cons]
    simp only [List.append_assoc]
    rfl

theorem Takes.fits (takes : Takes calls taken progress rest) (fit : OpenCall.Fit calls) :
    progress.Fits := by
  cases takes with
  | leaf alone =>
    obtain ⟨plain, -, shallow⟩ := Lexeme.flatten_of_leaf? alone
    refine fit.fits_deliver ⟨plain, ?_⟩
    rw [shallow, Nat.zero_add]
    exact fit.length_le
  | opening free => exact ⟨Nat.lt_of_le_of_ne fit.length_le free, nofun, fit⟩
  | closing => exact fit.2.2.fits_deliver fit.close

/-- The columns of what is left and still open are among those of what there was. -/
theorem Takes.columns {inside : Nat → Prop} (takes : Takes calls taken progress rest)
    (opened : ∀ call ∈ calls, inside call.column) (listed : ∀ token ∈ taken, inside token.column) :
    (∀ call ∈ progress.calls, inside call.column) ∧ ∀ token ∈ rest, inside token.column := by
  cases takes with
  | leaf => exact ⟨Progress.forall_mem_deliver opened, (List.forall_mem_cons.mp listed).2⟩
  | opening =>
    obtain ⟨column, listed⟩ := List.forall_mem_cons.mp listed
    exact ⟨List.forall_mem_cons.mpr ⟨column, opened⟩, (List.forall_mem_cons.mp listed).2⟩
  | closing =>
    obtain ⟨-, opened⟩ := List.forall_mem_cons.mp opened
    exact ⟨Progress.forall_mem_deliver opened, (List.forall_mem_cons.mp listed).2⟩

end

/-! ## Reading what is written -/

theorem OpenCall.close_foldl_add (nodes : List Node) (call : OpenCall) :
    (nodes.foldl OpenCall.add call).close =
      .call call.operator (call.reversedArgs.reverse ++ nodes) := by
  induction nodes generalizing call with
  | nil => rw [List.append_nil]; rfl
  | cons node rest ih =>
    rw [List.foldl_cons, ih, add, List.reverse_cons, List.append_assoc]
    rfl

theorem Node.FitsUnder.args {operator : Operator} {args : List Node} {depth : Nat}
    (fits : (Node.call operator args).FitsUnder depth) :
    depth < maxNesting ∧ ∀ arg ∈ args, arg.FitsUnder (depth + 1) := by
  obtain ⟨plain, shallow⟩ := fits
  rw [Node.nesting] at shallow
  refine ⟨by omega, fun arg listed => ⟨Node.plainList_iff.mp plain arg listed, ?_⟩⟩
  have := Node.nestingList_le_iff.mp (Nat.le_refl _) arg listed
  omega

theorem readTokens_leaf {node : Node} {calls : List OpenCall} {front rest : List Token}
    (plain : node.Plain) (same : front.map Token.lexeme = node.flatten)
    (single : ∀ operator args, node ≠ .call operator args) :
    readTokens (.within calls) (front ++ rest) = readTokens (Progress.deliver node calls) rest := by
  rcases Node.leaf_or_call plain with ⟨lexeme, written, alone⟩ | ⟨operator, args, isCall⟩
  · rw [written] at same
    obtain ⟨⟨_, column⟩, rfl, rfl⟩ := List.map_eq_singleton_iff.mp same
    exact readTokens_of_takes (.leaf alone)
  · exact absurd isCall (single operator args)

mutual

/-- Where a node is written, it is read. -/
theorem readTokens_node : ∀ {node : Node} {calls : List OpenCall} {front rest : List Token},
    node.FitsUnder calls.length → front.map Token.lexeme = node.flatten →
    readTokens (.within calls) (front ++ rest) = readTokens (Progress.deliver node calls) rest
  | .call operator args, calls, front, rest, fits, same => by
    obtain ⟨free, args⟩ := fits.args
    obtain ⟨⟨_, column⟩, front, rfl, rfl, heads⟩ := List.map_eq_cons_iff.mp same
    obtain ⟨⟨_, headColumn⟩, front, rfl, rfl, body⟩ := List.map_eq_cons_iff.mp heads
    obtain ⟨inner, last, rfl, inners, lasts⟩ := List.map_eq_append_iff.mp body
    obtain ⟨⟨_, lastColumn⟩, rfl, rfl⟩ := List.map_eq_singleton_iff.mp lasts
    rw [List.cons_append, List.cons_append, readTokens_of_takes (.opening (Nat.ne_of_lt free)),
      List.append_assoc, readTokens_args args inners, List.singleton_append,
      readTokens_of_takes .closing, OpenCall.close_foldl_add]
    rfl
  | .literal value, calls, front, rest, fits, same => readTokens_leaf fits.1 same nofun
  | .reactive name, calls, front, rest, fits, same => readTokens_leaf fits.1 same nofun
  | .static name, calls, front, rest, fits, same => readTokens_leaf fits.1 same nofun

theorem readTokens_args : ∀ {nodes : List Node} {call : OpenCall} {outer : List OpenCall}
    {front rest : List Token}, (∀ node ∈ nodes, node.FitsUnder (outer.length + 1)) →
    front.map Token.lexeme = Node.flattenList nodes →
    readTokens (.within (call :: outer)) (front ++ rest) =
      readTokens (.within (nodes.foldl OpenCall.add call :: outer)) rest
  | [], call, outer, front, rest, _, same => by
    rw [List.map_eq_nil_iff.mp same]
    rfl
  | node :: nodes, call, outer, front, rest, fit, same => by
    obtain ⟨first, later, rfl, firsts, laters⟩ := List.map_eq_append_iff.mp same
    obtain ⟨fits, others⟩ := List.forall_mem_cons.mp fit
    have one : readTokens (.within (call :: outer)) (first ++ (later ++ rest)) =
        readTokens (.within (call.add node :: outer)) (later ++ rest) :=
      readTokens_node fits firsts
    rw [List.append_assoc, one, readTokens_args others laters, List.foldl_cons]

end

/-! ## Whole texts -/

/-- A node that is read is written with what had been taken, and then with the tokens up to the end
or to `finish`. -/
theorem written_of_readTokens {progress : Progress} {taken : List Token} {node : Node}
    (fits : progress.Fits) (read : readTokens progress taken = .ok node) :
    node.FitsUnder 0 ∧ ∃ tail, progress.flatten ++ taken.map Token.lexeme = node.flatten ++ tail ∧
      ∀ lexeme ∈ tail.head?, lexeme = .finish := by
  match progress, taken with
  | .complete whole, [] =>
    rw [readTokens] at read
    cases read
    exact ⟨fits, [], rfl, nofun⟩
  | .complete whole, token :: rest =>
    rw [readTokens] at read
    split at read
    · next finished =>
      cases read
      refine ⟨fits, _, rfl, ?_⟩
      rintro lexeme ⟨⟩
      exact finished
    · cases read
  | .within calls, taken =>
    rcases takes_or_fails calls taken with ⟨next, rest, takes⟩ | ⟨problem, failed, -⟩
    · -- What has been taken and what is left make up the same text after each step.
      rw [readTokens_of_takes takes] at read
      have := takes.length_lt
      rw [← takes.written]
      exact written_of_readTokens (takes.fits fits) read
    · rw [failed] at read
      cases read
termination_by taken.length

theorem column_of_readTokens (inside : Nat → Prop) (first : inside 1) {progress : Progress}
    {taken : List Token} {problem : Problem}
    (opened : ∀ call ∈ progress.calls, inside call.column)
    (listed : ∀ token ∈ taken, inside token.column)
    (read : readTokens progress taken = .error problem) : inside problem.column := by
  match progress, taken with
  | .complete whole, [] => cases read
  | .complete whole, token :: rest =>
    rw [readTokens] at read
    split at read
    · cases read
    · cases read
      exact listed token List.mem_cons_self
  | .within calls, taken =>
    rcases takes_or_fails calls taken with ⟨next, rest, takes⟩ | ⟨other, failed, column⟩
    · rw [readTokens_of_takes takes] at read
      have := takes.length_lt
      obtain ⟨opened, listed⟩ := takes.columns opened listed
      exact column_of_readTokens inside first opened listed read
    · rw [failed] at read
      cases read
      simp only [List.mem_cons, List.mem_append, List.mem_map] at column
      rcases column with isFirst | ⟨call, mem, same⟩ | ⟨token, mem, same⟩
      · rw [isFirst]
        exact first
      · rw [← same]
        exact opened call mem
      · rw [← same]
        exact listed token mem
termination_by taken.length

/-- A text has just the tokens that a node is written with, and the node is not nested too deeply
to be read. -/
def Node.SpelledBy (node : Node) (source : String) : Prop :=
  (tokens source).map Token.lexeme = node.flatten ++ [.finish] ∧ node.nesting ≤ maxNesting

theorem parse_of_spelledBy {node : Node} {source : String} (plain : node.Plain)
    (spelled : node.SpelledBy source) : parse source = .ok node := by
  obtain ⟨same, shallow⟩ := spelled
  obtain ⟨front, last, split, written, isFinish⟩ := List.map_eq_append_iff.mp same
  obtain ⟨⟨_, column⟩, rfl, rfl⟩ := List.map_eq_singleton_iff.mp isFinish
  have fits : node.FitsUnder ([] : List OpenCall).length := ⟨plain, shallow⟩
  rw [parse, split, readTokens_node fits written, Progress.deliver, readTokens]
  exact if_pos rfl

theorem spelledBy_of_parse {node : Node} {source : String} (read : parse source = .ok node) :
    node.Plain ∧ node.SpelledBy source := by
  have empty : (Progress.within []).Fits := trivial
  obtain ⟨⟨plain, shallow⟩, tail, same, finish⟩ := written_of_readTokens empty read
  have same : (tokens source).map Token.lexeme = node.flatten ++ tail := same
  refine ⟨plain, ?_, shallow⟩
  cases tail with
  | nil =>
    -- The last token of a text is no part of an expression.
    obtain ⟨lexeme, mem, isLast⟩ := exists_last source
    rw [same, List.append_nil] at mem
    rw [Node.isLast_of_mem_flatten mem] at isLast
    cases isLast
  | cons lexeme rest =>
    cases finish lexeme rfl
    rw [nil_of_tokens same] at same
    exact same

/-- A text is read by its lexemes alone, wherever they stand in it. -/
theorem parse_eq_ok_of_lexemes_eq {source other : String} {node : Node}
    (same : (tokens other).map Token.lexeme = (tokens source).map Token.lexeme)
    (read : parse source = .ok node) : parse other = .ok node := by
  obtain ⟨plain, spelled, shallow⟩ := spelledBy_of_parse read
  exact parse_of_spelledBy plain ⟨same.trans spelled, shallow⟩

theorem column_of_parse {source : String} {problem : Problem}
    (failed : parse source = .error problem) :
    1 ≤ problem.column ∧ problem.column ≤ source.length + 1 :=
  column_of_readTokens (fun column => 1 ≤ column ∧ column ≤ source.length + 1)
    ⟨Nat.le_refl 1, Nat.le_add_left 1 _⟩ (List.forall_mem_nil _)
    (fun _ listed => column_of_mem_tokens listed) failed

/-- A text is read as the node that it spells. There is at most one, since no two nodes are written
alike. A text that spells none is reported with a column in it or right after it. -/
theorem parse_iff_spelledBy (source : String) :
    (∀ node : Node, node.Plain → (parse source = .ok node ↔ node.SpelledBy source)) ∧
    (∀ a b : Node, a.Plain → b.Plain → a.flatten = b.flatten → a = b) ∧
    ((∀ node : Node, node.Plain → ¬ node.SpelledBy source) →
      ∃ message column,
        (parse source).mapError (fun problem => problem.failure source) =
          .error ⟨.malformedExpression message column source, none⟩ ∧
        1 ≤ column ∧ column ≤ source.length + 1) := by
  refine ⟨?_, ?_, ?_⟩
  · intro node plain
    exact ⟨fun read => (spelledBy_of_parse read).2, parse_of_spelledBy plain⟩
  · intro a b plain other same
    have same : a.flatten ++ [] = b.flatten ++ [] := by rw [same]
    exact (Node.flatten_append_inj plain other same).1
  · intro spelled
    cases outcome : parse source with
    | ok node =>
      obtain ⟨plain, spells⟩ := spelledBy_of_parse outcome
      exact absurd spells (spelled node plain)
    | error problem => exact ⟨_, _, rfl, column_of_parse outcome⟩

/-- One more than a variable. -/
def successor : Node := .call .add [.literal (.int 1), .reactive "x"]

theorem parse_iff_spelledBy_successor :
    (successor.Plain ∧ successor.SpelledBy "(+ 1 $x)" ∧ parse "(+ 1 $x)" = .ok successor) ∧
    (∀ node : Node, node.Plain → ¬ node.SpelledBy "(+ 1 $x") ∧
    ∃ message column,
      (parse "(+ 1 $x").mapError (fun problem => problem.failure "(+ 1 $x") =
        .error ⟨.malformedExpression message column "(+ 1 $x", none⟩ ∧ 1 ≤ column ∧ column ≤ 8 := by
  have plain : successor.Plain := ⟨rfl, trivial, trivial⟩
  have spelled : successor.SpelledBy "(+ 1 $x)" := ⟨by decide +kernel, by decide⟩
  have unclosed : ∀ node : Node, node.Plain → ¬ node.SpelledBy "(+ 1 $x" := by
    intro node plain spelled
    have failed : (parse "(+ 1 $x").isOk = false := by decide +kernel
    rw [((parse_iff_spelledBy "(+ 1 $x").1 node plain).mpr spelled] at failed
    cases failed
  have read := ((parse_iff_spelledBy "(+ 1 $x)").1 successor plain).mpr spelled
  exact ⟨⟨plain, spelled, read⟩, unclosed, (parse_iff_spelledBy "(+ 1 $x").2.2 unclosed⟩

end DialogueEngine.Script
