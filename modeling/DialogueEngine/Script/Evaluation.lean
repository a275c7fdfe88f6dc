import DialogueEngine.Script.Parser
import DialogueEngine.Variables.Scope

/-!
# The value of an expression

Expressions are evaluated in a scope. All operators but `and` and `or` evaluate their arguments
first, from left to right.
-/

namespace DialogueEngine.Script

/-- The truth value of an argument that decides the result of `and` or `or`. -/
def Operator.deciding? : Operator → Option Bool
  | .and => some false
  | .or => some true
  | _ => none

namespace Node

variable (scope : Scope)

mutual

def evaluate : Node → Except Failure Value
  | literal value => .ok value
  | reactive name => .ok (scope.reactive name)
  | static name => .ok (scope.static name)
  | call operator args =>
      match operator.deciding? with
      | some deciding =>
          if args.isEmpty then
            .error ⟨.arityMismatch ("at least 1 for " ++ operator.symbol) 0, none⟩
          else evaluateUntil deciding .nil args
      | none => evaluateAll args >>= operator.apply

def evaluateAll : List Node → Except Failure (List Value)
  | [] => .ok []
  | node :: rest => do
      let value ← evaluate node
      let values ← evaluateAll rest
      return value :: values

/-- The first value with the deciding truth value, or the last value. -/
def evaluateUntil (deciding : Bool) : Value → List Node → Except Failure Value
  | last, [] => .ok last
  | _, node :: rest =>
      match evaluate node with
      | .error failure => .error failure
      | .ok value =>
          if value.isTruthy = deciding then .ok value else evaluateUntil deciding value rest

end

end Node

/-- Reads and evaluates an expression. -/
def evaluate (source : String) (scope : Scope) : Except Failure Value :=
  match parse source with
  | .error problem => .error (problem.failure source)
  | .ok node => node.evaluate scope

end DialogueEngine.Script
