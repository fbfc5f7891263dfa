import ThreeAddress.BuildError
import ThreeAddress.Instruction

/-!
Statements: instructions whose jump and call targets are still names. A statement is parsed from the
tokens of one line, and all of its tokens belong to it.
-/

namespace ThreeAddress

structure Reference where
  name : String
  global : Bool
  deriving DecidableEq

def Reference.render (reference : Reference) : String :=
  renderReference reference.name reference.global

inductive Statement where
  | assign (dest : String) (value : Operand)
  | binary (dest : String) (left : Operand) (operator : BinaryOperator) (right : Operand)
  | goto (target : Reference)
  | branch (polarity : Polarity) (condition : Operand) (target : Reference)
  | argument (value : Operand)
  | call (dest : Option String) (callee : Reference)
  | ret (value : Option Operand)
  deriving DecidableEq

namespace Statement

def parseOperand : List TokenKind → Except SyntaxProblem (Operand × List TokenKind)
  | .identifier name :: rest => .ok (.variable name, rest)
  | .globalRef name :: rest => .ok (.global name, rest)
  | .number value :: rest => .ok (.literal (.integer value), rest)
  | .string contents :: rest => .ok (.literal (.text contents), rest)
  | other => .error (.unexpected .operand other.head?)

def parseTarget : List TokenKind → Except SyntaxProblem (Reference × List TokenKind)
  | .identifier name :: rest => .ok (⟨name, false⟩, rest)
  | .globalRef name :: rest => .ok (⟨name, true⟩, rest)
  | other => .error (.unexpected .target other.head?)

def parseAssigned (dest : String) : List TokenKind → Except SyntaxProblem (Statement × List TokenKind)
  | .keyword .call :: rest => do
      let (callee, rest) ← parseTarget rest
      return (.call (some dest) callee, rest)
  | tokens => do
      let (left, rest) ← parseOperand tokens
      match rest with
      | .operator op :: rest =>
          let (right, rest) ← parseOperand rest
          return (.binary dest left op right, rest)
      | rest => return (.assign dest left, rest)

def parseBranch (polarity : Polarity) (tokens : List TokenKind) :
    Except SyntaxProblem (Statement × List TokenKind) := do
  let (condition, rest) ← parseOperand tokens
  match rest with
  | .keyword .goto :: rest =>
      let (target, rest) ← parseTarget rest
      return (.branch polarity condition target, rest)
  | other => .error (.unexpected .goto other.head?)

def parseFirst : List TokenKind → Except SyntaxProblem (Statement × List TokenKind)
  | .identifier dest :: rest =>
      match rest with
      | .assign :: rest => parseAssigned dest rest
      | other => .error (.unexpected .assign other.head?)
  | .keyword .ifz :: rest => parseBranch .ifZero rest
  | .keyword .ifnz :: rest => parseBranch .ifNonZero rest
  | .keyword .goto :: rest => do
      let (target, rest) ← parseTarget rest
      return (.goto target, rest)
  | .keyword .arg :: rest => do
      let (value, rest) ← parseOperand rest
      return (.argument value, rest)
  | .keyword .call :: rest => do
      let (callee, rest) ← parseTarget rest
      return (.call none callee, rest)
  | [.keyword .ret] => .ok (.ret none, [])
  | .keyword .ret :: rest => do
      let (value, rest) ← parseOperand rest
      return (.ret (some value), rest)
  | .label name :: _ => .error (.labelInside name)
  | other => .error (.unexpected .statement other.head?)

def parse (tokens : List TokenKind) : Except SyntaxProblem Statement := do
  let (statement, rest) ← parseFirst tokens
  match rest with
  | [] => return statement
  | extra :: _ => .error (.trailing extra)

end Statement

end ThreeAddress
