import DialogueEngine.Script.Lexer
import DialogueEngine.Script.Node

/-!
# Reading expressions

An expression is read in one pass over its tokens. The calls that are still open stand on a stack,
the innermost first, and each complete node is an argument of the innermost open call or, with no
call open, the whole expression.
-/

namespace DialogueEngine.Script

/-- Why a text is not an expression. -/
inductive Fault where
  | lexical (fault : LexicalFault)
  | unclosedCall
  | missingOperator
  | unknownOperator (word : String)
  | unexpectedClosing
  | strayWord (word : String)
  | tooDeep
  | unexpectedEnd
  | trailingInput
deriving DecidableEq

def Fault.message : Fault → String
  | lexical fault => fault.message
  | unclosedCall => "unclosed '('"
  | missingOperator => "expected an operator"
  | unknownOperator word => "unknown operator " ++ word
  | unexpectedClosing => "unexpected ')'"
  | strayWord word => "unexpected symbol " ++ word ++ " outside a call"
  | tooDeep => "expression nests deeper than " ++ toString maxNesting ++ " calls"
  | unexpectedEnd => "unexpected end of expression"
  | trailingInput => "unexpected trailing input"

/-- A fault and the column that it is reported at. -/
structure Problem where
  fault : Fault
  column : Nat
deriving DecidableEq

/-- A call that is still open, with its arguments so far, the last one first. -/
structure OpenCall where
  operator : Operator
  reversedArgs : List Node
  column : Nat

namespace OpenCall

def add (call : OpenCall) (node : Node) : OpenCall :=
  { call with reversedArgs := node :: call.reversedArgs }

def close (call : OpenCall) : Node := .call call.operator call.reversedArgs.reverse

end OpenCall

inductive Progress where
  | within (calls : List OpenCall)
  | complete (node : Node)

/-- The progress made by a complete node. -/
def Progress.deliver (node : Node) : List OpenCall → Progress
  | [] => .complete node
  | call :: outer => .within (call.add node :: outer)

/-- The node that a lexeme is by itself. -/
def Lexeme.leaf? : Lexeme → Option Node
  | .nil => some (.literal .nil)
  | .bool b => some (.literal (.bool b))
  | .int i => some (.literal (.int i))
  | .float x => some (.literal (.float x))
  | .string s => some (.literal (.string s))
  | .reactive name => some (.reactive name)
  | .static name => some (.static name)
  | _ => none

/-- The fault of a lexeme that neither is nor starts or ends a node. -/
def Lexeme.misplaced : Lexeme → Fault
  | .word w => .strayWord w
  | .fault f => .lexical f
  | .closing => .unexpectedClosing
  | _ => .unexpectedEnd

def readTokens : Progress → List Token → Except Problem Node
  | .complete node, [] => .ok node
  | .complete node, token :: _ =>
      if token.lexeme = .finish then .ok node else .error ⟨.trailingInput, token.column⟩
  | .within _, [] => .error ⟨.unexpectedEnd, 1⟩
  | .within calls, ⟨.opening, column⟩ :: rest =>
      if calls.length = maxNesting then .error ⟨.tooDeep, column⟩
      else
        match rest with
        | [] | ⟨.finish, _⟩ :: _ => .error ⟨.unclosedCall, column⟩
        | ⟨.word w, wordColumn⟩ :: rest =>
            match Operator.ofSymbol? w with
            | some operator => readTokens (.within (⟨operator, [], column⟩ :: calls)) rest
            | none => .error ⟨.unknownOperator w, wordColumn⟩
        | other :: _ => .error ⟨.missingOperator, other.column⟩
  | .within (call :: outer), ⟨.closing, _⟩ :: rest =>
      readTokens (Progress.deliver call.close outer) rest
  | .within (call :: _), ⟨.finish, _⟩ :: _ => .error ⟨.unclosedCall, call.column⟩
  | .within calls, ⟨lexeme, column⟩ :: rest =>
      match lexeme.leaf? with
      | some node => readTokens (Progress.deliver node calls) rest
      | none => .error ⟨lexeme.misplaced, column⟩

/-- Reads a whole text as one expression. -/
def parse (source : String) : Except Problem Node := readTokens (.within []) (tokens source)

def Problem.failure (problem : Problem) (source : String) : Failure :=
  ⟨.malformedExpression problem.fault.message problem.column source, none⟩

end DialogueEngine.Script
