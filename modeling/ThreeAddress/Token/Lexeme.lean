import ThreeAddress.BuildError

/-!
Recognition of the one lexeme that a text begins with: its token, or what is wrong with it, and the
number of characters that it takes up.
-/

namespace ThreeAddress

inductive Lexeme where
  | token (kind : TokenKind) (length : Nat)
  | failure (problem : LexProblem) (length : Nat)
  deriving DecidableEq

namespace Lexeme

/-- The quote that opens and closes a string. Nothing inside a string is escaped. -/
def quote : Char := '\x27'

def readString (body : List Char) : Lexeme :=
  let contents := body.takeWhile (· != quote)
  if contents.length < body.length then
    .token (.string (String.ofList contents)) (contents.length + 2)
  else .failure .unterminatedString (contents.length + 1)

def readGlobal (body : List Char) : Lexeme :=
  if body.head?.any Text.isIdentifierStart then
    let name := body.takeWhile Text.isIdentifierPart
    .token (.globalRef (String.ofList name)) (name.length + 1)
  else .failure .missingGlobalName 1

def readNumber (text : List Char) : Lexeme :=
  let digits := text.takeWhile Char.isDigit
  match Integer.ofInt? (Nat.ofDigitChars 10 digits 0) with
  | some value => .token (.number value) digits.length
  | none => .failure .integerOutOfRange digits.length

/-- Reads a keyword, a label with its colon, or an identifier. A colon that belongs to `:=` does
not make a label. -/
def readWord (text : List Char) : Lexeme :=
  let letters := text.takeWhile Text.isIdentifierPart
  let name := String.ofList letters
  match Keyword.ofSpelling? name with
  | some keyword => .token (.keyword keyword) letters.length
  | none =>
      match text.drop letters.length with
      | ':' :: '=' :: _ => .token (.identifier name) letters.length
      | ':' :: _ => .token (.label name) (letters.length + 1)
      | _ => .token (.identifier name) letters.length

def readOperator (first : Char) (rest : List Char) : Lexeme :=
  match first, rest with
  | ':', '=' :: _ => .token .assign 2
  | '=', '=' :: _ => .token (.operator .eq) 2
  | '<', '=' :: _ => .token (.operator .le) 2
  | '>', '=' :: _ => .token (.operator .ge) 2
  | '<', _ => .token (.operator .lt) 1
  | '>', _ => .token (.operator .gt) 1
  | '+', _ => .token (.operator .add) 1
  | '-', _ => .token (.operator .sub) 1
  | '*', _ => .token (.operator .mul) 1
  | '/', _ => .token (.operator .div) 1
  | '%', _ => .token (.operator .mod) 1
  | _, _ => .failure (.unexpectedCharacter first) 0

def read (first : Char) (rest : List Char) : Lexeme :=
  if first == quote then readString rest
  else if first == '@' then readGlobal rest
  else if first.isDigit then readNumber (first :: rest)
  else if Text.isIdentifierStart first then readWord (first :: rest)
  else readOperator first rest

theorem read_string_length {body : List Char} {kind : TokenKind} {length : Nat}
    (read : readString body = .token kind length) : 0 < length := by
  simp only [readString] at read
  split at read <;> cases read
  omega

theorem read_global_length {body : List Char} {kind : TokenKind} {length : Nat}
    (read : readGlobal body = .token kind length) : 0 < length := by
  simp only [readGlobal] at read
  split at read <;> cases read
  omega

theorem read_number_length {first : Char} {rest : List Char} {kind : TokenKind} {length : Nat}
    (digit : first.isDigit = true) (read : readNumber (first :: rest) = .token kind length) :
    0 < length := by
  unfold readNumber at read
  dsimp only at read
  split at read
  · rw [← (Lexeme.token.inj read).2]
    simp [digit]
  · cases read

theorem read_word_length {first : Char} {rest : List Char} {kind : TokenKind} {length : Nat}
    (start : Text.isIdentifierStart first = true)
    (read : readWord (first :: rest) = .token kind length) : 0 < length := by
  have part := Text.is_identifier_part_of_start start
  simp only [readWord, List.takeWhile_cons, part, if_true] at read
  split at read
  · cases read
    simp
  · split at read <;> cases read <;> simp

theorem read_operator_length {first : Char} {rest : List Char} {kind : TokenKind} {length : Nat}
    (read : readOperator first rest = .token kind length) : 0 < length := by
  unfold readOperator at read
  split at read <;> cases read <;> decide

theorem read_length_pos {first : Char} {rest : List Char} {kind : TokenKind} {length : Nat}
    (token : read first rest = .token kind length) : 0 < length := by
  unfold read at token
  split at token
  · exact read_string_length token
  · split at token
    · exact read_global_length token
    · split at token
      · rename_i digit
        exact read_number_length digit token
      · split at token
        · rename_i start
          exact read_word_length start token
        · exact read_operator_length token

end Lexeme

end ThreeAddress
