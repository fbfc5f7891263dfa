import ThreeAddress.Fault
import ThreeAddress.Text.Blank

/-!
What a host writes to set up a program: declarations of a function's parameters, such as
`add=p0,p1`, and values to pass as arguments.
-/

namespace ThreeAddress

inductive ArgumentError where
  | missingEquals (spec : String)
  | invalidName (name spec : String)
  | invalidValue (text : String)
  | unknownFunction (name : String)
  deriving DecidableEq

def ArgumentError.message : ArgumentError → String
  | .missingEquals spec => "expected NAME=P0,P1,... in parameter declaration " ++ quoted spec
  | .invalidName name spec =>
      "invalid name " ++ quoted name ++ " in parameter declaration " ++ quoted spec
  | .invalidValue text =>
      "cannot parse " ++ quoted text ++ " as a value (expected integer, 'text' or @name)"
  | .unknownFunction name => "no label " ++ quoted name ++ " to declare parameters for"

/-- The parameters of a function, which a program's text does not give. -/
structure Declaration where
  function : String
  params : List String
  deriving DecidableEq

namespace Declaration

/-- The elements of a comma-separated list, each trimmed. A blank list has none. -/
def elements (list : List Char) : List (List Char) :=
  let list := Text.trim list
  if list.isEmpty then [] else (list.splitOnP (· == ',')).map Text.trim

/-- Drops the `@` that a function's name may start with. -/
def dropAt : List Char → List Char
  | '@' :: rest => rest
  | name => name

/-- Reads a declaration. The first `=` ends the function's name; blanks around names are ignored,
and the first name that is no identifier is the one reported. -/
def read (spec : String) : Except ArgumentError Declaration :=
  match spec.toList.span (· != '=') with
  | (_, []) => .error (.missingEquals spec)
  | (left, _ :: right) =>
      let function := dropAt (Text.trim left)
      let params := elements right
      match (function :: params).find? fun name => !Text.isIdentifier name with
      | some name => .error (.invalidName (String.ofList name) spec)
      | none => .ok ⟨String.ofList function, params.map String.ofList⟩

end Declaration

namespace Value

def unquote? : List Char → Option (List Char)
  | '\x27' :: rest => if rest.getLast? = some '\x27' then some rest.dropLast else none
  | _ => none

/-- Reads a value: an integer in range, a text in quotes, or an identifier after `@`. -/
def read (text : String) : Except ArgumentError Value :=
  let letters := text.toList
  match (Text.readInteger letters).bind Integer.ofInt? with
  | some number => .ok (.integer number)
  | none =>
      match unquote? letters, letters with
      | some contents, _ => .ok (.text (String.ofList contents))
      | none, '@' :: name =>
          if Text.isIdentifier name then .ok (.globalRef (String.ofList name))
          else .error (.invalidValue text)
      | none, _ => .error (.invalidValue text)

end Value

end ThreeAddress
