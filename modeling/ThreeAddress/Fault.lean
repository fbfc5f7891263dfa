import ThreeAddress.Operator
import ThreeAddress.Value

/-!
Faults: the ways a running machine can stop short, each with the program counter where it arose.
-/

namespace ThreeAddress

/-- A name as it appears inside a message. -/
def quoted (name : String) : String := "`" ++ name ++ "`"

inductive ArithmeticProblem where
  | overflow (left : Integer) (operator : BinaryOperator) (right : Integer)
  | divisionByZero
  | moduloByZero
  | absoluteOverflow
  | lengthOverflow
  /-- A problem that the host describes in its own words. -/
  | other (words : String)
  deriving DecidableEq

def ArithmeticProblem.message : ArithmeticProblem → String
  | .overflow left operator right =>
      "overflow in " ++ Text.renderInteger left.toInt ++ " " ++ operator.symbol ++ " " ++
        Text.renderInteger right.toInt
  | .divisionByZero => "division by zero"
  | .moduloByZero => "modulo by zero"
  | .absoluteOverflow => "overflow in @abs"
  | .lengthOverflow => "length overflow in @strlen"
  | .other words => words

/-- What an operation needed where it met a value of another kind. -/
inductive Requirement where
  | integer
  | text
  | comparable
  | other (words : String)
  deriving DecidableEq

def Requirement.words : Requirement → String
  | .integer => "integer"
  | .text => "text"
  | .comparable => "comparable operands"
  | .other words => words

inductive Site where
  | operator (op : BinaryOperator)
  | branch (polarity : Polarity)
  | native (name : String)
  | other (words : String)
  deriving DecidableEq

def Site.words : Site → String
  | .operator op => quoted op.symbol
  | .branch polarity => polarity.symbol
  | .native name => "@" ++ name
  | .other words => words

inductive FaultKind where
  | arithmetic (problem : ArithmeticProblem)
  | typeMismatch (expected : Requirement) (actual : ValueKind) (site : Site)
  | arity (callee : String) (expected actual : Nat)
  | unknownCallee (name : String)
  | unboundVariable (name : String)
  | unknownGlobal (name : String)
  | stepLimitExceeded (limit : Nat)
  | callDepthExceeded (limit : Nat)
  deriving DecidableEq

def FaultKind.message : FaultKind → String
  | .arithmetic problem => "arithmetic fault: " ++ problem.message
  | .typeMismatch expected actual site =>
      "type fault in " ++ site.words ++ ": expected " ++ expected.words ++ ", got " ++ actual.word
  | .arity callee expected actual =>
      "arity fault calling " ++ quoted callee ++ ": expected " ++ expected.repr ++
        " arguments, got " ++ actual.repr
  | .unknownCallee name => "unknown callee " ++ quoted name
  | .unboundVariable name => "unbound variable " ++ quoted name
  | .unknownGlobal name => "unknown global " ++ quoted ("@" ++ name)
  | .stepLimitExceeded limit => "step limit (" ++ limit.repr ++ ") exceeded"
  | .callDepthExceeded limit => "call depth (" ++ limit.repr ++ ") exceeded"

structure Fault where
  kind : FaultKind
  pc : Nat
  deriving DecidableEq

def Fault.message (fault : Fault) : String := fault.kind.message ++ " at pc " ++ fault.pc.repr

end ThreeAddress
