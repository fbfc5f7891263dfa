import ThreeAddress.Text.Blank
import ThreeAddress.Token.Lexeme
import ThreeAddress.Token.Place

/-!
The token stream of a text. Blanks and comments, which run from `;` to the end of the line, only
separate tokens. The stream ends with the text or with the first error.
-/

namespace ThreeAddress

/-- What stands next in a text, and the cursor after it. After an error the cursor stands where the
reading of the bad lexeme gave up. -/
inductive Scan where
  | finished (after : Cursor)
  | token (token : Token) (after : Cursor)
  | failure (error : BuildError) (after : Cursor)
  deriving DecidableEq

namespace Cursor

/-- Moves past blanks and comments. Inside a comment everything up to the line break is skipped. -/
def skipTriviaFrom (inComment : Bool) (place : Place) : List Char → Cursor
  | [] => ⟨place, []⟩
  | c :: rest =>
      if inComment then skipTriviaFrom (c != '\n') (place.advance c) rest
      else if Text.isBlank c then skipTriviaFrom false (place.advance c) rest
      else if c == ';' then skipTriviaFrom true (place.advance c) rest
      else ⟨place, c :: rest⟩

def skipTrivia (cursor : Cursor) : Cursor := skipTriviaFrom false cursor.place cursor.rest

theorem skip_trivia_from_length (inComment : Bool) (place : Place) (rest : List Char) :
    (skipTriviaFrom inComment place rest).rest.length ≤ rest.length := by
  induction rest generalizing inComment place with
  | nil => simp [skipTriviaFrom]
  | cons c rest induction =>
      simp only [skipTriviaFrom]
      split
      · exact Nat.le_succ_of_le (induction _ _)
      · split
        · exact Nat.le_succ_of_le (induction _ _)
        · split
          · exact Nat.le_succ_of_le (induction _ _)
          · exact Nat.le_refl _

def scan (cursor : Cursor) : Scan :=
  let start := cursor.skipTrivia
  match start.rest with
  | [] => .finished start
  | first :: rest =>
      let place := start.place
      match Lexeme.read first rest with
      | .token kind length =>
          let after := start.skip length
          .token ⟨kind, ⟨place.offset, after.place.offset, place.line.toNat, place.column.toNat⟩⟩ after
      | .failure problem length =>
          .failure (.lex problem place.offset place.line.toNat place.column.toNat) (start.skip length)

theorem scan_token_length {cursor after : Cursor} {token : Token}
    (scanned : cursor.scan = .token token after) : after.rest.length < cursor.rest.length := by
  have bound := skip_trivia_from_length false cursor.place cursor.rest
  unfold scan at scanned
  simp only [skipTrivia] at scanned
  split at scanned
  · cases scanned
  · rename_i first rest remaining
    rw [remaining, List.length_cons] at bound
    split at scanned
    · rename_i kind length recognized
      cases scanned
      have positive := Lexeme.read_length_pos recognized
      simp only [skip, remaining, List.length_drop, List.length_cons]
      omega
    · cases scanned

/-- All tokens from here on, and the error that ends them if there is one. -/
def drain (cursor : Cursor) : List Token × Option BuildError :=
  match _scanned : cursor.scan with
  | .finished _ => ([], none)
  | .token token after =>
      let (tokens, failure) := after.drain
      (token :: tokens, failure)
  | .failure error _ => ([], some error)
termination_by cursor.rest.length
decreasing_by exact scan_token_length _scanned

end Cursor

def tokenize (source : String) : Except BuildError (List Token) :=
  match (Cursor.ofText source.toList).drain with
  | (tokens, none) => .ok tokens
  | (_, some error) => .error error

/-- A token stream that is read piece by piece and can be restarted. As a stream it ends with its
first error. -/
structure Lexer where
  source : String
  cursor : Cursor
  failed : Bool
  deriving DecidableEq

namespace Lexer

def ofSource (source : String) : Lexer := ⟨source, .ofText source.toList, false⟩

def reset (lexer : Lexer) : Lexer := ofSource lexer.source

/-- Reads the next token even after an error, from wherever the failed reading stopped. -/
def nextToken (lexer : Lexer) : Except BuildError (Option Token) × Lexer :=
  match lexer.cursor.scan with
  | .finished after => (.ok none, { lexer with cursor := after })
  | .token token after => (.ok (some token), { lexer with cursor := after })
  | .failure error after => (.error error, { lexer with cursor := after })

def next (lexer : Lexer) : Option (Except BuildError Token) × Lexer :=
  if lexer.failed then (none, lexer)
  else
    match lexer.nextToken with
    | (.ok none, after) => (none, after)
    | (.ok (some token), after) => (some (.ok token), after)
    | (.error error, after) => (some (.error error), { after with failed := true })

def remaining (lexer : Lexer) : List Token × Option BuildError :=
  if lexer.failed then ([], none) else lexer.cursor.drain

end Lexer

end ThreeAddress
