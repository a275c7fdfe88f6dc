import DialogueEngine.Proofs.Script.Causes
import DialogueEngine.Script.Cache
import Mathlib.Data.List.Dedup

/-!
# The cache does not show

A cache answers every request as an empty one would, whatever it has been asked before: the node
that it keeps for a text is what the text reads as, and it keeps nothing for a text that is no
expression. Nor does the evaluation of a node ever blame the text, so that a check foretells whether
an evaluation will.
-/

namespace DialogueEngine.Script

/-! ## Failures that are not about the text -/

/-- The result does not find fault with the text of an expression. -/
def Faultless {α : Type} (result : Except Failure α) : Prop :=
  ∀ problem column source context,
    result ≠ .error ⟨.malformedExpression problem column source, context⟩

theorem Faultless.evaluate (scope : Scope) (node : Node) : Faultless (node.evaluate scope) := by
  intro problem column source context same
  cases Ordinary.evaluate scope node _ same

namespace Cache

/-! ## What is kept -/

/-- The cache keeps the expressions among the texts that it has seen, and only those. -/
def Keeps (cache : Cache) (seen : List String) : Prop :=
  ∀ source, cache.nodes.find? source = if source ∈ seen then (parse source).toOption else none

/-- What a text reads as, without a cache. -/
def reading (source : String) : Except Failure Node :=
  (parse source).mapError fun problem => problem.failure source

variable {cache : Cache} {seen : List String}

theorem keeps_empty : empty.Keeps [] := fun _ => rfl

theorem Keeps.of_find? {source : String} {node : Node} (keeps : cache.Keeps seen)
    (found : cache.nodes.find? source = some node) : parse source = .ok node := by
  have kept := keeps source
  rw [found] at kept
  split at kept
  · cases read : parse source with
    | ok read =>
      rw [read] at kept
      cases kept
      rfl
    | error problem =>
      rw [read] at kept
      cases kept
  · cases kept

theorem node_eq (keeps : cache.Keeps seen) (source : String) :
    (cache.node source).1 = reading source := by
  rw [node, reading]
  cases found : cache.nodes.find? source with
  | some node => rw [keeps.of_find? found]; rfl
  | none => cases parse source <;> rfl

theorem Keeps.node (keeps : cache.Keeps seen) (source : String) :
    (cache.node source).2.Keeps (seen ++ [source]) := by
  intro other
  rw [Cache.node]
  by_cases same : source = other
  · subst same
    rw [if_pos (by simp)]
    cases found : cache.nodes.find? source with
    | some node => simp [found, keeps.of_find? found, Except.toOption]
    | none => cases parse source <;> simp [found, Except.toOption]
  · -- what is kept for other texts stays as it was
    have mem : other ∈ seen ++ [source] ↔ other ∈ seen := by simp [Ne.symm same]
    simp only [mem, ← keeps other]
    cases cache.nodes.find? source with
    | some node => rfl
    | none => cases parse source <;> simp [same]

theorem Keeps.size_eq (keeps : cache.Keeps seen) :
    cache.size = (seen.dedup.filter fun source => (parse source).isOk).length := by
  have nodup : cache.nodes.names.Nodup :=
    List.pairwise_map.mpr (cache.nodes.ascending.imp fun before => String.ne_of_lt before)
  rw [size, NameTable.size, ← List.length_map (f := Prod.fst)]
  refine List.Perm.length_eq ((List.perm_ext_iff_of_nodup nodup
    ((List.nodup_dedup seen).filter _)).mpr fun source => ?_)
  rw [← NameTable.contains_iff_mem_names, NameTable.contains, keeps source, List.mem_filter,
    List.mem_dedup]
  by_cases mem : source ∈ seen <;> cases parse source <;>
    simp [mem, Except.toOption, Except.isOk, Except.toBool]

/-! ## Requests -/

/-- What a cache may be asked. -/
inductive Query where
  | check (source : String)
  | evaluate (source : String) (scope : Scope)

def Query.source : Query → String
  | check source | evaluate source _ => source

/-- The answer to a request; a check that finds no fault has no value to give. -/
def answer (cache : Cache) : Query → Except Failure (Option Value) × Cache
  | .check source =>
      let (result, cache) := cache.check source
      (result.map fun _ => none, cache)
  | .evaluate source scope =>
      let (result, cache) := cache.evaluate source scope
      (result.map some, cache)

/-- The answers to requests one after the other. -/
def answers (cache : Cache) : List Query → List (Except Failure (Option Value)) × Cache
  | [] => ([], cache)
  | query :: rest =>
      let (result, cache) := cache.answer query
      let (results, cache) := cache.answers rest
      (result :: results, cache)

theorem check_eq (keeps : cache.Keeps seen) (source : String) :
    (cache.check source).1 = (reading source).map fun _ => () :=
  congrArg (Except.map _) (node_eq keeps source)

theorem evaluate_eq (keeps : cache.Keeps seen) (source : String) (scope : Scope) :
    (cache.evaluate source scope).1 = Script.evaluate source scope := by
  have evaluated : (cache.evaluate source scope).1 =
      (cache.node source).1.bind fun node => node.evaluate scope := rfl
  rw [evaluated, node_eq keeps, reading, Script.evaluate]
  cases parse source <;> rfl

theorem answer_eq (keeps : cache.Keeps seen) (query : Query) :
    (cache.answer query).1 = (empty.answer query).1 := by
  cases query with
  | check source =>
    exact congrArg (Except.map _) ((check_eq keeps source).trans (check_eq keeps_empty source).symm)
  | evaluate source scope =>
    exact congrArg (Except.map _)
      ((evaluate_eq keeps source scope).trans (evaluate_eq keeps_empty source scope).symm)

theorem Keeps.answer (keeps : cache.Keeps seen) (query : Query) :
    (cache.answer query).2.Keeps (seen ++ [query.source]) := by
  cases query with
  | check source | evaluate source scope => exact keeps.node source

theorem answers_eq (keeps : cache.Keeps seen) (queries : List Query) :
    (cache.answers queries).1 = queries.map fun query => (empty.answer query).1 := by
  induction queries generalizing cache seen with
  | nil => rfl
  | cons query rest ih => exact congrArg₂ _ (answer_eq keeps query) (ih (keeps.answer query))

theorem Keeps.answers (keeps : cache.Keeps seen) (queries : List Query) :
    (cache.answers queries).2.Keeps (seen ++ queries.map Query.source) := by
  induction queries generalizing cache seen with
  | nil => rwa [List.map_nil, List.append_nil]
  | cons query rest ih =>
    rw [List.map_cons, List.append_cons]
    exact ih (keeps.answer query)

/-- A text can be checked exactly if its evaluation does not find fault with it. -/
theorem Keeps.check_eq_ok_iff (keeps : cache.Keeps seen) (source : String) (scope : Scope) :
    (cache.check source).1 = .ok () ↔ Faultless (cache.evaluate source scope).1 := by
  rw [check_eq keeps, evaluate_eq keeps, reading, Script.evaluate]
  cases parse source with
  | ok node => exact iff_of_true rfl (Faultless.evaluate scope node)
  | error problem => exact iff_of_false nofun fun faultless => faultless _ _ _ _ rfl

/-- However many requests are made, each is answered as if it were the first. A check goes well
exactly if an evaluation does not find fault with the text, and the size is the number of different
expressions among the texts so far. -/
theorem answers_as_empty (queries : List Query) :
    (empty.answers queries).1 = queries.map (fun query => (empty.answer query).1) ∧
      (∀ source scope, ((empty.answers queries).2.check source).1 = .ok () ↔
        Faultless ((empty.answers queries).2.evaluate source scope).1) ∧
      (empty.answers queries).2.size =
        ((queries.map Query.source).dedup.filter fun source => (parse source).isOk).length := by
  have keeps : (empty.answers queries).2.Keeps (queries.map Query.source) :=
    keeps_empty.answers queries
  exact ⟨answers_eq keeps_empty queries, keeps.check_eq_ok_iff, keeps.size_eq⟩

end Cache

end DialogueEngine.Script
