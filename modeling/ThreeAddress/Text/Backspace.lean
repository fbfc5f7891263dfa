import ThreeAddress.Text.Grapheme

/-!
Backspaces in typed text. Each takes back the grapheme cluster that was typed last.
-/

namespace ThreeAddress.Text

/-- Text while it is typed: its characters, backwards, and how many bytes each cluster in it takes,
the last one first. -/
structure TypedText where
  backwards : List Char := []
  sizes : List Nat := []
  deriving DecidableEq

namespace TypedText

def backspace : Char := '\x08'

/-- Sizes are kept in single bytes: of a cluster of 256 bytes nothing can be taken back. -/
def sizeOf (cluster : List Char) : Nat :=
  cluster.foldl (fun bytes c => bytes + c.utf8Size) 0 % 0x100

def dropBytes : Nat → List Char → List Char
  | 0, text => text
  | _, [] => []
  | count, c :: rest => dropBytes (count - c.utf8Size) rest

def enter (typed : TypedText) (cluster : List Char) : TypedText :=
  if cluster = [backspace] then
    match typed.sizes with
    | [] => typed
    | size :: sizes => ⟨dropBytes size typed.backwards, sizes⟩
  else ⟨cluster.reverse ++ typed.backwards, sizeOf cluster :: typed.sizes⟩

def text (typed : TypedText) : List Char := typed.backwards.reverse

end TypedText

def applyBackspaces (typed : List Char) : List Char :=
  ((clusters typed).foldl TypedText.enter {}).text

theorem text_foldl_enter (pieces : List (List Char)) (typed : TypedText)
    (plain : ∀ piece ∈ pieces, piece ≠ [TypedText.backspace]) :
    (pieces.foldl TypedText.enter typed).text = typed.text ++ pieces.flatten := by
  induction pieces generalizing typed with
  | nil => simp
  | cons piece pieces induction =>
      have first := plain piece (by simp)
      have later := induction (typed.enter piece) fun other member => plain other (by simp [member])
      rw [List.foldl_cons, later]
      simp [TypedText.enter, first, TypedText.text]

/-- Text without backspaces stands as it was typed. -/
theorem apply_backspaces_of_not_mem {typed : List Char} (absent : TypedText.backspace ∉ typed) :
    applyBackspaces typed = typed := by
  have plain : ∀ piece ∈ clusters typed, piece ≠ [TypedText.backspace] := by
    intro piece member same
    apply absent
    rw [← clusters_flatten typed]
    exact List.mem_flatten.mpr ⟨piece, member, by simp [same]⟩
  have stands := text_foldl_enter (clusters typed) {} plain
  rw [clusters_flatten] at stands
  simpa [applyBackspaces, TypedText.text] using stands

end ThreeAddress.Text
