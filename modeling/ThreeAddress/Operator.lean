import ThreeAddress.Integer

/-!
The binary operators and branch polarities of the instruction set, with their written symbols.
-/

namespace ThreeAddress

inductive BinaryOperator where
  | add
  | sub
  | mul
  | div
  | mod
  | eq
  | le
  | ge
  | gt
  | lt
  deriving DecidableEq

namespace BinaryOperator

def all : List BinaryOperator := [.add, .sub, .mul, .div, .mod, .eq, .le, .ge, .gt, .lt]

def symbol : BinaryOperator → String
  | .add => "+"
  | .sub => "-"
  | .mul => "*"
  | .div => "/"
  | .mod => "%"
  | .eq => "=="
  | .le => "<="
  | .ge => ">="
  | .gt => ">"
  | .lt => "<"

def isComparison : BinaryOperator → Bool
  | .eq | .le | .ge | .gt | .lt => true
  | _ => false

end BinaryOperator

inductive Polarity where
  | ifZero
  | ifNonZero
  deriving DecidableEq

namespace Polarity

def symbol : Polarity → String
  | .ifZero => "ifz"
  | .ifNonZero => "ifnz"

def fires (polarity : Polarity) (condition : Integer) : Bool :=
  match polarity with
  | .ifZero => condition == 0
  | .ifNonZero => condition != 0

end Polarity

end ThreeAddress
