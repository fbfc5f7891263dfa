import ThreeAddress.Operator
import ThreeAddress.Text.Decimal

/-!
Tokens of program text: what they are, where they stand, and how they are written.
-/

namespace ThreeAddress

/-- The reserved words. They are reserved only as whole words. -/
inductive Keyword where
  | goto
  | call
  | arg
  | ret
  | ifnz
  | ifz
  deriving DecidableEq

namespace Keyword

def all : List Keyword := [.goto, .call, .arg, .ret, .ifnz, .ifz]

def spelling : Keyword → String
  | .goto => "goto"
  | .call => "call"
  | .arg => "arg"
  | .ret => "ret"
  | .ifnz => "ifnz"
  | .ifz => "ifz"

def ofSpelling? (word : String) : Option Keyword := all.find? fun keyword => keyword.spelling == word

theorem of_spelling_eq_some_iff {word : String} {keyword : Keyword} :
    ofSpelling? word = some keyword ↔ keyword.spelling = word := by
  constructor
  · intro found
    simpa using List.find?_some (p := fun keyword : Keyword => keyword.spelling == word) found
  · rintro rfl
    cases keyword <;> rfl

end Keyword

inductive TokenKind where
  | identifier (name : String)
  | globalRef (name : String)
  | label (name : String)
  | number (value : Integer)
  | string (contents : String)
  | assign
  | operator (op : BinaryOperator)
  | keyword (word : Keyword)
  deriving DecidableEq

namespace TokenKind

def name : TokenKind → String
  | .identifier _ => "identifier"
  | .globalRef _ => "global reference"
  | .label _ => "label"
  | .number _ => "number"
  | .string _ => "string"
  | .assign => "':='"
  | .operator _ => "operator"
  | .keyword _ => "keyword"

def render : TokenKind → String
  | .identifier name => name
  | .globalRef name => "@" ++ name
  | .label name => name ++ ":"
  | .number value => Text.renderInteger value.toInt
  | .string contents => "'" ++ contents ++ "'"
  | .assign => ":="
  | .operator op => op.symbol
  | .keyword word => word.spelling

end TokenKind

/-- A stretch of program text: the bytes from `start` up to `stop`, and the line and column,
counted from one, at which it starts. -/
structure Span where
  start : Nat
  stop : Nat
  line : Nat
  column : Nat
  deriving DecidableEq

namespace Span

def length (span : Span) : Nat := span.stop - span.start

def isEmpty (span : Span) : Bool := span.start == span.stop

/-- The characters whose first byte lies at an offset from `start` up to `stop`, where the text
begins at byte `offset`. -/
def textFrom (span : Span) (offset : Nat) : List Char → List Char
  | [] => []
  | c :: rest =>
      let later := span.textFrom (offset + c.utf8Size) rest
      if span.start ≤ offset && offset < span.stop then c :: later else later

def text (span : Span) (source : String) : String := String.ofList (span.textFrom 0 source.toList)

end Span

structure Token where
  kind : TokenKind
  span : Span
  deriving DecidableEq

namespace Token

/-- Line numbers do not go beyond this one. -/
def lastLine : Nat := 0xffffffff

def line (token : Token) : Nat := token.span.line

/-- The line a token ends on, which differs from its first line only for a string with line breaks
in it. -/
def endLine (token : Token) : Nat :=
  match token.kind with
  | .string contents => min (token.line + contents.toList.count '\n') lastLine
  | _ => token.line

end Token

end ThreeAddress
