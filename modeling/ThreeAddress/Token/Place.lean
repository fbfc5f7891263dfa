/-!
Places in a text and cursors over it. A place counts bytes from zero and lines and columns from
one; columns count characters, and a line break starts the next line. Lines and columns are counted
in 32 bits and begin again at zero when these are used up.
-/

namespace ThreeAddress

structure Place where
  offset : Nat
  line : UInt32
  column : UInt32
  deriving DecidableEq

namespace Place

def start : Place := ⟨0, 1, 1⟩

def advance (place : Place) (c : Char) : Place :=
  if c = '\n' then ⟨place.offset + c.utf8Size, place.line + 1, 1⟩
  else ⟨place.offset + c.utf8Size, place.line, place.column + 1⟩

def past (place : Place) (characters : List Char) : Place := characters.foldl advance place

@[simp] theorem past_nil (place : Place) : place.past [] = place := rfl

theorem past_append (place : Place) (first second : List Char) :
    place.past (first ++ second) = (place.past first).past second := by
  simp [past, List.foldl_append]

end Place

/-- A place in a text together with the characters from there to its end. -/
structure Cursor where
  place : Place
  rest : List Char
  deriving DecidableEq

namespace Cursor

def ofText (text : List Char) : Cursor := ⟨.start, text⟩

def skip (cursor : Cursor) (count : Nat) : Cursor :=
  ⟨cursor.place.past (cursor.rest.take count), cursor.rest.drop count⟩

end Cursor

end ThreeAddress
