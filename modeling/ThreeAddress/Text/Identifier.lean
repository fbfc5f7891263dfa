/-!
Identifiers: an ASCII letter or underscore, followed by ASCII letters, digits and underscores.
-/

namespace ThreeAddress.Text

def isIdentifierStart (c : Char) : Bool := c.isAlpha || c == '_'

def isIdentifierPart (c : Char) : Bool := c.isAlphanum || c == '_'

def isIdentifier : List Char → Bool
  | [] => false
  | first :: rest => isIdentifierStart first && rest.all isIdentifierPart

theorem is_identifier_part_of_start {c : Char} (start : isIdentifierStart c = true) :
    isIdentifierPart c = true := by
  simp only [isIdentifierStart, isIdentifierPart, Char.isAlphanum, Bool.or_eq_true] at *
  rcases start with letter | underscore
  · exact .inl (.inl letter)
  · exact .inr underscore

/-- A global may be written with a leading `@`, which is not part of its name. -/
def bareName (name : String) : String :=
  match name.toList with
  | '@' :: rest => String.ofList rest
  | _ => name

end ThreeAddress.Text
