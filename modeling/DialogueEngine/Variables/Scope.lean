import DialogueEngine.NameTable
import DialogueEngine.Value.Basic

/-!
# Scopes

The bindings that an embedded expression reads: the static values and the current values of the
reactive variables.
-/

namespace DialogueEngine

structure Scope where
  statics : NameTable Value
  reactives : NameTable Value

namespace Scope

def static? (scope : Scope) (name : String) : Option Value := scope.statics.find? name

def reactive? (scope : Scope) (name : String) : Option Value := scope.reactives.find? name

/-- A name that is not bound reads as `nil`. -/
def static (scope : Scope) (name : String) : Value := (scope.static? name).getD .nil

def reactive (scope : Scope) (name : String) : Value := (scope.reactive? name).getD .nil

end Scope

end DialogueEngine
