import ThreeAddress.Operator
import ThreeAddress.Value

/-!
The three-address instruction set. An instruction names at most one destination and two operands,
and a jump or call carries both the name it was written with and what the name resolved to.
-/

namespace ThreeAddress

inductive Operand where
  | variable (name : String)
  | global (name : String)
  | literal (value : Value)
  deriving DecidableEq

def Operand.render : Operand → String
  | .variable name => name
  | .global name => "@" ++ name
  | .literal value => value.render

/-- The written form of a target: its name, with `@` if it is written as a global. -/
def renderReference (name : String) (global : Bool) : String :=
  if global then "@" ++ name else name

structure Target where
  name : String
  global : Bool
  pc : Nat
  deriving DecidableEq

def Target.render (target : Target) : String := renderReference target.name target.global

/-- What a call calls. A callee without an entry is left to the host. -/
structure Callee where
  name : String
  global : Bool
  entry : Option Nat
  deriving DecidableEq

def Callee.render (callee : Callee) : String := renderReference callee.name callee.global

inductive Instruction where
  | assign (dest : String) (value : Operand)
  | binary (dest : String) (left : Operand) (operator : BinaryOperator) (right : Operand)
  | goto (target : Target)
  | branch (polarity : Polarity) (condition : Operand) (target : Target)
  | argument (value : Operand)
  | call (dest : Option String) (callee : Callee)
  | ret (value : Option Operand)
  /-- A label written among the instructions. Assembled programs hold none. -/
  | labelMarker (name : String)
  deriving DecidableEq

def Instruction.render : Instruction → String
  | .assign dest value => dest ++ " := " ++ value.render
  | .binary dest left operator right =>
      dest ++ " := " ++ left.render ++ " " ++ operator.symbol ++ " " ++ right.render
  | .goto target => "goto " ++ target.render
  | .branch polarity condition target =>
      polarity.symbol ++ " " ++ condition.render ++ " goto " ++ target.render
  | .argument value => "arg " ++ value.render
  | .call (some dest) callee => dest ++ " := call " ++ callee.render
  | .call none callee => "call " ++ callee.render
  | .ret (some value) => "ret " ++ value.render
  | .ret none => "ret"
  | .labelMarker name => name ++ ":"

end ThreeAddress
