import DialogueEngine.Script.Evaluation

/-!
# Cached expressions

A cache keeps the expressions that have been read, by their source texts. Texts that are not
expressions are not kept.
-/

namespace DialogueEngine.Script

structure Cache where
  nodes : NameTable Node

namespace Cache

def empty : Cache := ⟨.empty⟩

def size (cache : Cache) : Nat := cache.nodes.size

/-- Reads an expression, or finds it in the cache. -/
def node (cache : Cache) (source : String) : Except Failure Node × Cache :=
  match cache.nodes.find? source with
  | some node => (.ok node, cache)
  | none =>
      match parse source with
      | .ok node => (.ok node, ⟨cache.nodes.insert source node⟩)
      | .error problem => (.error (problem.failure source), cache)

/-- Whether a text is an expression, without evaluating it. -/
def check (cache : Cache) (source : String) : Except Failure Unit × Cache :=
  let (result, cache) := cache.node source
  (result.map fun _ => (), cache)

def evaluate (cache : Cache) (source : String) (scope : Scope) : Except Failure Value × Cache :=
  let (result, cache) := cache.node source
  (result.bind fun node => node.evaluate scope, cache)

end Cache

end DialogueEngine.Script
