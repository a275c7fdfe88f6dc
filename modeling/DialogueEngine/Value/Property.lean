import DialogueEngine.Failure
import DialogueEngine.Value.Entries

/-!
# Properties of values

The content of a map under a key, the item of a list and the character of a string at an index.
What is not there reads as `nil`.
-/

namespace DialogueEngine

namespace Value

/-- The element at an integer index; a negative index is outside. -/
def atIndex {α : Type} (items : List α) (i : Int64) : Option α :=
  if i < 0 then none else items[i.toInt.toNat]?

def property : Value → Value → Except Failure Value
  | map entries, key => .ok ((Entries.find? key entries).getD nil)
  | list items, int i => .ok ((atIndex items i).getD nil)
  | string s, int i => .ok ((atIndex s.toList i).elim nil fun c => string (String.singleton c))
  | list _, key | string _, key => .error ⟨.typeMismatch .int key.kind, none⟩
  | base, _ => .error ⟨.typeMismatch .map base.kind, none⟩

/-- Follows keys one after the other. -/
def path (base : Value) (keys : List Value) : Except Failure Value := keys.foldlM property base

end Value

end DialogueEngine
