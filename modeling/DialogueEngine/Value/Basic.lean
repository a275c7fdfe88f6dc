import DialogueEngine.Number.Double

/-!
# Values

The data that instructions store, compare and pass to the host. `Kind` describes what a value is,
or what an operation accepts.
-/

namespace DialogueEngine

/-- A value. The entries of a map stand in ascending order of their keys, each key once, so that
equal maps are equal terms; `Entries` keeps them so. A host object is known by its name alone. -/
inductive Value where
  | nil
  | bool (b : Bool)
  | int (i : Int64)
  | float (x : Double)
  | string (s : String)
  | list (items : List Value)
  | map (entries : List (Value × Value))
  | hostObject (name : String)
deriving Inhabited

/-- What a value is; `number` and `any` stand for several kinds. -/
inductive Kind where
  | nil | bool | int | float | number | string | list | map | hostObject | any
deriving DecidableEq, Inhabited

namespace Kind

def name : Kind → String
  | nil => "nil"
  | bool => "bool"
  | int => "int"
  | float => "float"
  | number => "number"
  | string => "string"
  | list => "list"
  | map => "map"
  | hostObject => "opaque"
  | any => "any"

/-- Whether values of the second kind can be used where the first is expected: an integer counts
as a float, and either as a number. -/
def accepts : Kind → Kind → Bool
  | any, _ => true
  | number, k => k = int ∨ k = float
  | float, k => k = int ∨ k = float
  | k, l => k = l

end Kind

namespace Value

def kind : Value → Kind
  | nil => .nil
  | bool _ => .bool
  | int _ => .int
  | float _ => .float
  | string _ => .string
  | list _ => .list
  | map _ => .map
  | hostObject _ => .hostObject

/-- Only `nil` and `false` are not. -/
def isTruthy : Value → Bool
  | nil => false
  | bool b => b
  | _ => true

def isNumber : Value → Bool
  | int _ | float _ => true
  | _ => false

def asBool? : Value → Option Bool
  | bool b => some b
  | _ => none

def asInt? : Value → Option Int64
  | int i => some i
  | _ => none

def asFloat? : Value → Option Double
  | float x => some x
  | _ => none

/-- A number as a double. -/
def asNumber? : Value → Option Double
  | int i => some (Double.ofInt i.toInt)
  | float x => some x
  | _ => none

def asString? : Value → Option String
  | string s => some s
  | _ => none

def asList? : Value → Option (List Value)
  | list items => some items
  | _ => none

def asMap? : Value → Option (List (Value × Value))
  | map entries => some entries
  | _ => none

end Value

end DialogueEngine
