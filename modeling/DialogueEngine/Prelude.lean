import DialogueEngine.Engine.Basic
import DialogueEngine.Value.Comparison
import DialogueEngine.Value.Property

/-!
# The prelude

Host functions that programs find in an engine by default, in four groups that can be registered
on their own. All but `and` and `or` evaluate every argument they need before they compute, from
left to right; property access looks up each key before it evaluates the next.
-/

namespace DialogueEngine

namespace Prelude

open DialogueEngine.Computation

variable {σ : Type}

/-- Folds an operation over one or more values. -/
def variadic (name : String) (op : Value → Value → Except Failure Value) : HostFunction σ :=
  fun args => values args fun operands => .done (Value.reduce name op operands)

/-- Compares two values. -/
def comparing (name : String) (accepts : Ordering → Bool) : HostFunction σ :=
  fun args => two name args fun a b =>
    .done ((a.comparison b).map fun ordering => .bool (accepts ordering))

/-- Evaluates arguments until one has the deciding truth value. -/
def valueUntil (deciding : Bool) : Value → List Operand → Computation σ
  | last, [] => pure last
  | _, operand :: rest =>
      value operand fun a => if a.isTruthy = deciding then pure a else valueUntil deciding a rest

/-- The first argument with the deciding truth value, or the last one. -/
def decided (name : String) (deciding : Bool) : HostFunction σ
  | [] => wrongArity "at least 1" name []
  | args => valueUntil deciding .nil args

/-- Follows keys, evaluating each when its turn comes. -/
def follow (base : Value) : List Operand → Computation σ
  | [] => pure base
  | key :: rest =>
      value key fun k =>
        match base.property k with
        | .ok next => follow next rest
        | .error failure => fail failure

def get : HostFunction σ
  | [] => wrongArity "at least 1" "." []
  | base :: keys => value base fun b => follow b keys

/-- Passes on the name of a variable. -/
def named (name : String) (next : String → Computation σ) : HostFunction σ :=
  fun args => one name args fun
    | .string variableName => next variableName
    | a => fail ⟨.typeMismatch .string a.kind, none⟩

def math : List (String × HostFunction σ) :=
  [("+", variadic "+" Value.add),
    ("-", variadic "-" Value.sub),
    ("*", variadic "*" Value.mul),
    ("/", variadic "/" Value.div),
    ("%", variadic "%" Value.rem),
    ("ABS", fun args => one "ABS" args fun a => .done a.abs)]

def bitwise : List (String × HostFunction σ) :=
  [("&", variadic "&" Value.bitAnd),
    ("|", variadic "|" Value.bitOr),
    ("^", variadic "^" Value.bitXor)]

def condition : List (String × HostFunction σ) :=
  [("<", comparing "<" Ordering.isLT),
    (">", comparing ">" Ordering.isGT),
    ("<=", comparing "<=" Ordering.isLE),
    (">=", comparing ">=" Ordering.isGE),
    ("==", fun args => two "==" args fun a b => pure (.bool (a.equals b))),
    ("!=", fun args => two "!=" args fun a b => pure (.bool (!a.equals b))),
    ("and", decided "and" false),
    ("or", decided "or" true),
    ("not", fun args => one "not" args fun a => pure (.bool (!a.isTruthy)))]

def primitive : List (String × HostFunction σ) :=
  [("#VAR", named "#VAR" fun name => .observe fun outlook => pure (outlook.scope.static name)),
    ("$VAR", named "$VAR" fun name => .observe fun outlook => pure (outlook.scope.reactive name)),
    (".", get)]

def all : List (String × HostFunction σ) := math ++ bitwise ++ condition ++ primitive

end Prelude

/-- Registers the whole prelude. -/
def Engine.withPrelude {σ : Type} (e : Engine σ) : Engine σ := e.registerFunctions Prelude.all

end DialogueEngine
