import ThreeAddress.Integer
import ThreeAddress.Text.Decimal
import ThreeAddress.Text.Identifier

/-!
Values of running programs: integers, texts, and references to globals.
-/

namespace ThreeAddress

inductive Value where
  | integer (number : Integer)
  | text (contents : String)
  | globalRef (name : String)
  deriving DecidableEq

inductive ValueKind where
  | integer
  | text
  | global
  deriving DecidableEq

def ValueKind.word : ValueKind → String
  | .integer => "integer"
  | .text => "text"
  | .global => "global"

namespace Value

/-- A reference to a global, whose name may be given with its `@`. -/
def global (name : String) : Value := .globalRef (Text.bareName name)

/-- Truth is the integer one and falsehood the integer zero. -/
def ofBool (truth : Bool) : Value := .integer (if truth then 1 else 0)

def kind : Value → ValueKind
  | .integer _ => .integer
  | .text _ => .text
  | .globalRef _ => .global

def integer? : Value → Option Integer
  | .integer number => some number
  | _ => none

def text? : Value → Option String
  | .text contents => some contents
  | _ => none

def global? : Value → Option String
  | .globalRef name => some name
  | _ => none

/-- The written form. A text stands between quotes as it is, without escapes. -/
def render : Value → String
  | .integer number => Text.renderInteger number.toInt
  | .text contents => "'" ++ contents ++ "'"
  | .globalRef name => "@" ++ name

end Value

end ThreeAddress
