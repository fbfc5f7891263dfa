import ThreeAddress.Proofs.Lexemes

/-!
Readable tokens. What the scanner recognizes is always readable, and a readable token that is
written out in front of a blank, or at the end of the text, is recognized as itself.
-/

namespace ThreeAddress

/-- What the scanner can give: the names are identifiers, the words that stand alone are no keywords,
numbers carry no sign and strings hold no quote. -/
def TokenKind.Readable : TokenKind → Prop
  | .identifier name | .label name =>
      Text.isIdentifier name.toList = true ∧ Keyword.ofSpelling? name = none
  | .globalRef name => Text.isIdentifier name.toList = true
  | .number value => 0 ≤ value.toInt
  | .string contents => Lexeme.quote ∉ contents.toList
  | .assign | .operator _ | .keyword _ => True

theorem TokenKind.render_number {value : Integer} (natural : 0 ≤ value.toInt) :
    (TokenKind.number value).render = value.toInt.toNat.repr := by
  obtain ⟨magnitude, same⟩ := Int.eq_ofNat_of_zero_le natural
  rw [TokenKind.render, same]
  rfl

theorem TokenKind.Written.readable {kind : TokenKind} {lexeme after : List Char}
    (written : kind.Written lexeme after) : kind.Readable := by
  cases written with
  | identifier valid free ends noLabel => exact ⟨valid, Keyword.of_spelling_eq_none_iff.2 free⟩
  | globalRef valid ends => exact valid
  | label valid free alone => exact ⟨valid, Keyword.of_spelling_eq_none_iff.2 free⟩
  | number nonempty decimal ends same =>
      rw [Readable, same]
      exact Int.natCast_nonneg _
  | string closed => exact closed
  | assign => trivial
  | operator op longest => trivial
  | keyword ends => trivial

namespace Lexeme

def Separated (rest : List Char) : Prop := ∀ c ∈ rest.head?, Text.isBlank c = true

theorem separated_nil : Separated [] := by
  intro c member
  cases member

theorem ends_of_separated {letter : Char → Bool} {rest : List Char} (separated : Separated rest)
    (blanks : ∀ c, Text.isBlank c = true → letter c = false) : Text.Ends letter rest := by
  intro c member
  exact blanks c (separated c member)

theorem head_ne_of_separated {rest : List Char} {c : Char} (separated : Separated rest)
    (printable : 32 < c.toNat ∧ c.toNat < 128) : rest.head? ≠ some c := by
  intro found
  exact Text.blank_ne (separated c found) printable rfl

theorem read_readable {first : Char} {rest : List Char} {kind : TokenKind} {length : Nat}
    (token : read first rest = .token kind length) : kind.Readable := by
  obtain ⟨lexeme, after, -, -, written⟩ := fronts_of_read token
  exact written.readable

/-- A token never begins with a character that is skipped between tokens. -/
theorem not_trivia_of_read {first : Char} {rest : List Char} {kind : TokenKind} {length : Nat}
    (token : read first rest = .token kind length) : Text.isBlank first = false ∧ first ≠ ';' := by
  constructor
  · rw [← Bool.not_eq_true]
    intro blank
    have notQuote : first ≠ quote := Text.blank_ne blank (by decide)
    have notAt : first ≠ '@' := Text.blank_ne blank (by decide)
    have notDigit := Text.blank_not_digit blank
    have notStart : ¬ Text.isIdentifierStart first = true := by
      intro start
      have part := Text.is_identifier_part_of_start start
      rw [Text.blank_not_part blank] at part
      cases part
    rw [read, if_neg (by simpa using notQuote), if_neg (by simpa using notAt),
      if_neg (by simp [notDigit]), if_neg notStart] at token
    unfold readOperator at token
    split at token <;> first | exact absurd blank (by decide) | cases token
  · rintro rfl
    cases token

theorem written_render {kind : TokenKind} {rest : List Char} (readable : kind.Readable)
    (separated : Separated rest) : kind.Written kind.render.toList rest := by
  have word : Text.Ends Text.isIdentifierPart rest :=
    ends_of_separated separated fun c => Text.blank_not_part
  have noColon : rest.head? ≠ some ':' := head_ne_of_separated separated (by decide)
  have noEquals : rest.head? ≠ some '=' := head_ne_of_separated separated (by decide)
  cases kind with
  | identifier name =>
      have free := Keyword.of_spelling_eq_none_iff.1 readable.2
      exact .identifier readable.1 free word fun colon => absurd colon noColon
  | globalRef name =>
      have written := TokenKind.Written.globalRef readable word
      simpa [TokenKind.render] using written
  | label name =>
      have free := Keyword.of_spelling_eq_none_iff.1 readable.2
      have written := TokenKind.Written.label readable.1 free noEquals
      simpa [TokenKind.render] using written
  | number value =>
      have natural : 0 ≤ value.toInt := readable
      have number := Text.read_natural_repr value.toInt.toNat
      rw [TokenKind.render_number natural]
      rw [Text.readNatural] at number
      split at number
      · rename_i valid
        rw [Bool.and_eq_true, Bool.not_eq_true', List.isEmpty_eq_false_iff,
          List.all_eq_true] at valid
        have same : value.toInt = Nat.ofDigitChars 10 value.toInt.toNat.repr.toList 0 := by
          rw [Option.some.inj number, Int.toNat_of_nonneg natural]
        have ends := ends_of_separated separated fun c => Text.blank_not_digit
        exact .number valid.1 valid.2 ends same
      · cases number
  | string contents =>
      have written := @TokenKind.Written.string contents rest readable
      simpa [TokenKind.render, quote] using written
  | assign => exact .assign
  | operator op => exact .operator op fun _ => noEquals
  | keyword keyword => exact .keyword word

theorem read_render {kind : TokenKind} {rest : List Char} (readable : kind.Readable)
    (separated : Separated rest) :
    ∃ first more, kind.render.toList ++ rest = first :: more ∧
      read first more = .token kind kind.render.toList.length :=
  read_of_written (written_render readable separated)

end Lexeme

namespace Cursor

theorem skip_trivia_of_read {place : Place} {first : Char} {rest : List Char} {kind : TokenKind}
    {length : Nat} (token : Lexeme.read first rest = .token kind length) :
    skipTrivia ⟨place, first :: rest⟩ = ⟨place, first :: rest⟩ := by
  obtain ⟨notBlank, notComment⟩ := Lexeme.not_trivia_of_read token
  simp [skipTrivia, skipTriviaFrom, notBlank, notComment]

def tokenAt (place : Place) (kind : TokenKind) : Token :=
  ⟨kind, place.offset, (place.past kind.render.toList).offset, place.line.toNat,
    place.column.toNat⟩

theorem scan_render {kind : TokenKind} {rest : List Char} (readable : kind.Readable)
    (separated : Lexeme.Separated rest) (place : Place) :
    scan ⟨place, kind.render.toList ++ rest⟩ =
      .token (tokenAt place kind) ⟨place.past kind.render.toList, rest⟩ := by
  obtain ⟨first, more, whole, token⟩ := Lexeme.read_render readable separated
  unfold scan
  rw [whole, skip_trivia_of_read token]
  simp only [token, skip, ← whole, List.take_left, List.drop_left]
  rfl

theorem scan_readable {cursor after : Cursor} {token : Token}
    (scanned : cursor.scan = .token token after) : token.kind.Readable := by
  unfold scan at scanned
  dsimp only at scanned
  split at scanned
  · cases scanned
  · split at scanned
    · rename_i kind length recognized
      cases scanned
      exact Lexeme.read_readable recognized
    · cases scanned

/-- One scan decides how the stream goes on. -/
theorem drain_eq (cursor : Cursor) :
    cursor.drain =
      match cursor.scan with
      | .finished _ => ([], none)
      | .token token after => (token :: after.drain.1, after.drain.2)
      | .failure error _ => ([], some error) := by
  rw [drain]
  split
  case h_1 after scanned => rw [scanned]
  case h_2 token after scanned => rw [scanned]
  case h_3 error after scanned => rw [scanned]

theorem drain_of_finished {cursor after : Cursor} (scanned : cursor.scan = .finished after) :
    cursor.drain = ([], none) := by
  rw [drain_eq, scanned]

theorem drain_of_token {cursor after : Cursor} {token : Token}
    (scanned : cursor.scan = .token token after) :
    cursor.drain = (token :: after.drain.1, after.drain.2) := by
  rw [drain_eq, scanned]

theorem drain_of_failure {cursor after : Cursor} {error : BuildError}
    (scanned : cursor.scan = .failure error after) : cursor.drain = ([], some error) := by
  rw [drain_eq, scanned]

theorem drain_readable (cursor : Cursor) : ∀ token ∈ cursor.drain.1, token.kind.Readable := by
  fun_induction drain cursor with
  | case1 cursor after scanned => simp
  | case2 cursor token after scanned tokens failure drained induction =>
      intro other member
      rcases List.mem_cons.1 member with rfl | later
      · exact scan_readable scanned
      · rw [drained] at induction
        exact induction other later
  | case3 cursor error after scanned => simp

theorem drain_congr {first second : Cursor} (same : first.scan = second.scan) :
    first.drain = second.drain := by
  rw [drain_eq, drain_eq, same]

theorem drain_blanks {blanks : List Char} (allBlank : ∀ c ∈ blanks, Text.isBlank c = true)
    (place : Place) (rest : List Char) :
    drain ⟨place, blanks ++ rest⟩ = drain ⟨place.past blanks, rest⟩ := by
  induction blanks generalizing place with
  | nil => rfl
  | cons c blanks induction =>
      have blank := allBlank c List.mem_cons_self
      have skipped : scan ⟨place, c :: (blanks ++ rest)⟩ =
          scan ⟨place.advance c, blanks ++ rest⟩ := by
        have same : skipTrivia ⟨place, c :: (blanks ++ rest)⟩ =
            skipTrivia ⟨place.advance c, blanks ++ rest⟩ := by
          simp [skipTrivia, skipTriviaFrom, blank]
        rw [scan, scan, same]
      rw [List.cons_append, drain_congr skipped,
        induction (fun other member => allBlank other (List.mem_cons_of_mem _ member))]
      rfl

end Cursor

end ThreeAddress
