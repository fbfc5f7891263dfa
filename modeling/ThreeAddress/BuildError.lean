import ThreeAddress.Fault
import ThreeAddress.Token

/-!
The errors that can stop the building of a program, each with the line it is reported on.
-/

namespace ThreeAddress

inductive LexProblem where
  | unterminatedString
  | missingGlobalName
  | integerOutOfRange
  | unexpectedCharacter (c : Char)
  /-- A problem that the host describes in its own words. -/
  | other (words : String)
  deriving DecidableEq

def LexProblem.message : LexProblem → String
  | .unterminatedString => "unterminated string literal"
  | .missingGlobalName => "expected identifier after '@'"
  | .integerOutOfRange => "integer literal out of range"
  | .unexpectedCharacter c => "unexpected character: " ++ c.toString
  | .other words => words

/-- The parts of a statement that a token can fail to be. -/
inductive Expected where
  | assign
  | statement
  | goto
  | operand
  | target
  deriving DecidableEq

def Expected.words : Expected → String
  | .assign => "':='"
  | .statement => "a statement"
  | .goto => "'goto'"
  | .operand => "an operand"
  | .target => "a label or global"

inductive SyntaxProblem where
  /-- One part of a statement was wanted and another token, or none, was found. -/
  | unexpected (expected : Expected) (found : Option TokenKind)
  | labelInside (name : String)
  | trailing (extra : TokenKind)
  | other (words : String)
  deriving DecidableEq

def SyntaxProblem.message : SyntaxProblem → String
  | .unexpected expected (some kind) =>
      "expected " ++ expected.words ++ ", found " ++ kind.name ++ " " ++ quoted kind.render
  | .unexpected expected none => "expected " ++ expected.words ++ ", found end of line"
  | .labelInside name => "label " ++ quoted (name ++ ":") ++ " must start the line"
  | .trailing extra => "unexpected " ++ extra.name ++ " " ++ quoted extra.render ++ " after statement"
  | .other words => words

inductive BuildError where
  | lex (problem : LexProblem) (offset line column : Nat)
  | malformed (problem : SyntaxProblem) (line : Nat)
  | duplicateLabel (name : String) (line firstLine : Nat)
  | unresolvedReference (name : String) (line : Nat)
  deriving DecidableEq

namespace BuildError

def line : BuildError → Nat
  | .lex _ _ line _ => line
  | .malformed _ line => line
  | .duplicateLabel _ line _ => line
  | .unresolvedReference _ line => line

def message : BuildError → String
  | .lex problem offset line column =>
      "lex error at " ++ line.repr ++ ":" ++ column.repr ++ " (offset " ++ offset.repr ++ "): " ++
        problem.message
  | .malformed problem line => "syntax error on line " ++ line.repr ++ ": " ++ problem.message
  | .duplicateLabel name line firstLine =>
      "duplicate label " ++ quoted name ++ " on line " ++ line.repr ++ " (first defined on line " ++
        firstLine.repr ++ ")"
  | .unresolvedReference name line =>
      "unresolved reference " ++ quoted name ++ " on line " ++ line.repr

end BuildError

end ThreeAddress
