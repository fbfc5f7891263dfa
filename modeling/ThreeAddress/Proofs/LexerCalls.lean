import ThreeAddress.Proofs.Placement

/-!
Calls of a lexer. Whatever has been asked of a lexer before, also after errors, it stands behind a
first part of its source, and its place is counted in that part. A call goes on from there: behind
the token that it gives, or to where the reading of a bad lexeme gave up. A reset makes it as good as
new, and the stream is over after at most as many tokens as there are characters and one error.
-/

namespace ThreeAddress

/-- How far the reading of a bad lexeme goes: the text that it passes and the text that it leaves. A
string goes on to the end, an `@` and a run of digits are passed, and any other character is not. -/
inductive LexProblem.Stops : LexProblem → List Char → List Char → Prop where
  | unterminatedString {contents : List Char} (unclosed : Lexeme.quote ∉ contents) :
      Stops .unterminatedString (Lexeme.quote :: contents) []
  | missingGlobalName {after : List Char} (nameless : Text.Ends Text.isIdentifierStart after) :
      Stops .missingGlobalName ['@'] after
  | integerOutOfRange {digits after : List Char} (decimal : ∀ c ∈ digits, c.isDigit = true)
      (ends : Text.Ends Char.isDigit after)
      (large : 0x8000000000000000 ≤ Nat.ofDigitChars 10 digits 0) :
      Stops .integerOutOfRange digits after
  | unexpectedCharacter (c : Char) {after : List Char} : Stops (.unexpectedCharacter c) [] (c :: after)

namespace Lexeme

def StopsAt (text : List Char) (problem : LexProblem) (length : Nat) : Prop :=
  ∃ passed after, text = passed ++ after ∧ passed.length = length ∧ problem.Stops passed after

theorem stops_of_read_string {body : List Char} {problem : LexProblem} {length : Nat}
    (refused : readString body = .failure problem length) :
    StopsAt (quote :: body) problem length := by
  by_cases closed : quote ∈ body
  · obtain ⟨contents, after, rfl, before⟩ := List.eq_append_cons_of_mem closed
    rw [read_string_closed before] at refused
    cases refused
  · rw [read_string_unclosed closed] at refused
    cases refused
    exact ⟨quote :: body, [], by simp, rfl, .unterminatedString closed⟩

theorem stops_of_read_global {body : List Char} {problem : LexProblem} {length : Nat}
    (refused : readGlobal body = .failure problem length) : StopsAt ('@' :: body) problem length := by
  unfold readGlobal at refused
  split at refused
  · cases refused
  · rename_i nameless
    cases refused
    refine ⟨['@'], body, rfl, rfl, .missingGlobalName ?_⟩
    intro c member
    rw [Option.mem_def.1 member] at nameless
    simpa using nameless

theorem stops_of_read_number {text : List Char} {problem : LexProblem} {length : Nat}
    (refused : readNumber text = .failure problem length) : StopsAt text problem length := by
  unfold readNumber at refused
  dsimp only at refused
  split at refused
  · cases refused
  · rename_i outside
    cases refused
    have large := Integer.of_int_eq_none_iff.1 outside
    refine ⟨_, text.dropWhile Char.isDigit, List.takeWhile_append_dropWhile.symm, rfl,
      .integerOutOfRange ?_ (Text.ends_drop_while _ _) (by omega)⟩
    intro c member
    exact List.mem_takeWhile_imp member

theorem stops_of_read_word {text : List Char} {problem : LexProblem} {length : Nat}
    (refused : readWord text = .failure problem length) : StopsAt text problem length := by
  unfold readWord at refused
  dsimp only at refused
  split at refused
  · cases refused
  · split at refused <;> cases refused

theorem stops_of_read_operator {first : Char} {rest : List Char} {problem : LexProblem}
    {length : Nat} (refused : readOperator first rest = .failure problem length) :
    StopsAt (first :: rest) problem length := by
  unfold readOperator at refused
  split at refused <;> cases refused
  exact ⟨[], first :: rest, rfl, rfl, .unexpectedCharacter first⟩

theorem stops_of_read {first : Char} {rest : List Char} {problem : LexProblem} {length : Nat}
    (refused : read first rest = .failure problem length) :
    StopsAt (first :: rest) problem length := by
  unfold read at refused
  split at refused
  · rename_i opened
    rw [eq_of_beq opened]
    exact stops_of_read_string refused
  · split at refused
    · rename_i global
      rw [eq_of_beq global]
      exact stops_of_read_global refused
    · split at refused
      · exact stops_of_read_number refused
      · split at refused
        · exact stops_of_read_word refused
        · exact stops_of_read_operator refused

end Lexeme

namespace Cursor

open Text

inductive Finds (before : List Char) : List Char → Scan → Prop where
  | finished {rest : List Char} (ending : Ending rest) :
      Finds before rest (.finished ⟨.after (before ++ rest), []⟩)
  | token {gap lexeme after : List Char} {kind : TokenKind} (spaced : Gap gap)
      (written : kind.Written lexeme after) :
      Finds before (gap ++ (lexeme ++ after))
        (.token ⟨kind, .behind (before ++ gap) lexeme⟩ ⟨.after (before ++ gap ++ lexeme), after⟩)
  | failure {gap passed after : List Char} {problem : LexProblem} (spaced : Gap gap)
      (stops : problem.Stops passed after) :
      Finds before (gap ++ (passed ++ after))
        (.failure (.lexAt problem (.after (before ++ gap))) ⟨.after (before ++ gap ++ passed), after⟩)

theorem finds_scan (before rest : List Char) :
    Finds before rest (scan ⟨.after before, rest⟩) := by
  rcases splits_or_ends rest with ⟨gap, first, more, rfl, spaced, solid⟩ | ending
  -- What is read at the end of the gap decides how far the scan goes behind it.
  · cases recognized : Lexeme.read first more with
    | token kind length =>
        obtain ⟨lexeme, after, whole, taken, written⟩ := Lexeme.fronts_of_read recognized
        rw [whole, scan_written spaced written]
        exact .token spaced written
    | failure problem length =>
        obtain ⟨passed, after, whole, rfl, stops⟩ := Lexeme.stops_of_read recognized
        have scanned : scan ⟨.after before, gap ++ first :: more⟩ =
            .failure (.lexAt problem (.after (before ++ gap)))
              ⟨.after (before ++ gap ++ passed), after⟩ := by
          rw [scan, skip_trivia_solid spaced solid]
          simp only [recognized, skip, whole, List.take_left, List.drop_left, Place.past_after]
          rfl
        rw [scanned, whole]
        exact .failure spaced stops
  · rw [scan_ending ending, Place.past_after]
    exact .finished ending

theorem drain_length_le (cursor : Cursor) : cursor.drain.1.length ≤ cursor.rest.length := by
  fun_induction drain cursor with
  | case1 cursor after scanned => simp
  | case2 cursor token after scanned tokens failure drained induction =>
      have shorter := scan_token_length scanned
      rw [drained] at induction
      dsimp only [List.length_cons] at induction ⊢
      omega
  | case3 cursor error after scanned => simp

end Cursor

namespace Lexer

/-- What can be asked of a lexer: the next item of the stream, the next token even after an error,
and a new start. -/
inductive Call where
  | next
  | nextToken
  | reset
  deriving DecidableEq

def ask (lexer : Lexer) : Call → Option (Except BuildError Token) × Lexer
  | .next => lexer.next
  | .nextToken =>
      match lexer.nextToken with
      | (.ok token, after) => (token.map .ok, after)
      | (.error error, after) => (some (.error error), after)
  | .reset => (none, lexer.reset)

def afterCalls (lexer : Lexer) (calls : List Call) : Lexer :=
  calls.foldl (fun lexer call => (lexer.ask call).2) lexer

def answers (lexer : Lexer) : List Call → List (Option (Except BuildError Token))
  | [] => []
  | call :: calls => (lexer.ask call).1 :: (lexer.ask call).2.answers calls

/-- A lexer for the source stands behind the given first part of it. -/
structure Stands (source : String) (before : List Char) (lexer : Lexer) : Prop where
  source_eq : lexer.source = source
  whole : source.toList = before ++ lexer.cursor.rest
  place : lexer.cursor.place = .after before

inductive Gives (source : String) (before : List Char) :
    Option (Except BuildError Token) → Lexer → Prop where
  | nothing {passed : List Char} {after : Lexer} (stands : Stands source (before ++ passed) after) :
      Gives source before none after
  | token {gap lexeme : List Char} {kind : TokenKind} {after : Lexer}
      (written : kind.Written lexeme after.cursor.rest)
      (stands : Stands source (before ++ gap ++ lexeme) after) :
      Gives source before (some (.ok ⟨kind, .behind (before ++ gap) lexeme⟩)) after
  | failure {gap passed : List Char} {problem : LexProblem} {after : Lexer}
      (stops : problem.Stops passed after.cursor.rest)
      (stands : Stands source (before ++ gap ++ passed) after) :
      Gives source before (some (.error (.lexAt problem (.after (before ++ gap))))) after

/-- What a lexer makes of a scan. Whether it counts as failed after an error depends on the call. -/
def takeScan (lexer : Lexer) (failed : Bool) : Scan → Option (Except BuildError Token) × Lexer
  | .finished after => (none, { lexer with cursor := after })
  | .token token after => (some (.ok token), { lexer with cursor := after })
  | .failure error after => (some (.error error), { lexer with cursor := after, failed })

theorem ask_next_of_failed {lexer : Lexer} (failed : lexer.failed = true) :
    lexer.ask .next = (none, lexer) := by
  simp [ask, next, failed]

theorem ask_next {lexer : Lexer} (going : lexer.failed = false) :
    lexer.ask .next = lexer.takeScan true lexer.cursor.scan := by
  obtain ⟨source, cursor, failed⟩ := lexer
  dsimp only at going
  subst going
  rw [ask, next, nextToken]
  cases cursor.scan <;> rfl

theorem ask_next_token (lexer : Lexer) :
    lexer.ask .nextToken = lexer.takeScan lexer.failed lexer.cursor.scan := by
  rw [ask, nextToken]
  cases lexer.cursor.scan <;> rfl

theorem gives_scan {source : String} {before : List Char} {lexer : Lexer}
    (stands : Stands source before lexer) (failed : Bool) :
    Gives source before (lexer.takeScan failed lexer.cursor.scan).1
      (lexer.takeScan failed lexer.cursor.scan).2 := by
  obtain ⟨own, ⟨place, rest⟩, ended⟩ := lexer
  obtain ⟨rfl, whole, rfl⟩ := stands
  have found := Cursor.finds_scan before rest
  dsimp only at whole ⊢
  generalize Cursor.scan ⟨.after before, rest⟩ = scanned at found ⊢
  cases found with
  | finished ending => exact .nothing ⟨rfl, by simp [takeScan, whole], rfl⟩
  | token spaced written => exact .token written ⟨rfl, by simp [takeScan, whole], rfl⟩
  | failure spaced stops => exact .failure stops ⟨rfl, by simp [takeScan, whole], rfl⟩

theorem gives_ask {source : String} {before : List Char} {lexer : Lexer} {call : Call}
    (stands : Stands source before lexer) (going : call ≠ .reset) :
    Gives source before (lexer.ask call).1 (lexer.ask call).2 := by
  cases call with
  | next =>
      cases failed : lexer.failed with
      | true =>
          have still : Stands source (before ++ []) lexer := by simpa using stands
          rw [ask_next_of_failed failed]
          exact .nothing still
      | false =>
          rw [ask_next failed]
          exact gives_scan stands true
  | nextToken =>
      rw [ask_next_token]
      exact gives_scan stands lexer.failed
  | reset => exact absurd rfl going

theorem Gives.exists_stands {source : String} {before : List Char} {after : Lexer}
    {item : Option (Except BuildError Token)} (gives : Gives source before item after) :
    ∃ passed, Stands source (before ++ passed) after := by
  cases gives with
  | nothing stands => exact ⟨_, stands⟩
  | token written stands => exact ⟨_, by simpa using stands⟩
  | failure stops stands => exact ⟨_, by simpa using stands⟩

theorem stands_of_source (source : String) : Stands source [] (ofSource source) := ⟨rfl, rfl, rfl⟩

theorem ask_reset {source : String} {before : List Char} {lexer : Lexer}
    (stands : Stands source before lexer) : lexer.ask .reset = (none, ofSource source) := by
  rw [ask, reset, stands.source_eq]

theorem exists_stands_ask {source : String} {before : List Char} {lexer : Lexer}
    (stands : Stands source before lexer) (call : Call) :
    ∃ before, Stands source before (lexer.ask call).2 := by
  by_cases again : call = .reset
  · subst again
    rw [ask_reset stands]
    exact ⟨[], stands_of_source source⟩
  · obtain ⟨passed, later⟩ := (gives_ask stands again).exists_stands
    exact ⟨_, later⟩

theorem exists_stands_after_calls {source : String} {before : List Char} {lexer : Lexer}
    (stands : Stands source before lexer) (calls : List Call) :
    ∃ before, Stands source before (lexer.afterCalls calls) := by
  induction calls generalizing lexer before with
  | nil => exact ⟨before, stands⟩
  | cons call calls induction =>
      obtain ⟨later, moved⟩ := exists_stands_ask stands call
      exact induction moved

/-! ### Places -/

def position (lexer : Lexer) : Nat := lexer.cursor.place.offset

theorem Stands.position_append {source : String} {before passed : List Char} {lexer after : Lexer}
    (stands : Stands source before lexer) (moved : Stands source (before ++ passed) after) :
    after.position = lexer.position + (String.ofList passed).utf8ByteSize := by
  rw [position, position, stands.place, moved.place, Place.offset_append]

theorem valid_after {source : String} {before rest : List Char}
    (whole : source.toList = before ++ rest) :
    String.Pos.Raw.IsValid source ⟨(Place.after before).offset⟩ := by
  rw [String.Pos.Raw.isValid_iff_exists_append]
  refine ⟨String.ofList before, String.ofList rest, ?_, rfl⟩
  rw [← String.ofList_append, ← whole, String.ofList_toList]

theorem Stands.valid {source : String} {before : List Char} {lexer : Lexer}
    (stands : Stands source before lexer) : String.Pos.Raw.IsValid source ⟨lexer.position⟩ := by
  rw [position, stands.place]
  exact valid_after stands.whole

theorem Stands.numbers {source : String} {before : List Char} {lexer : Lexer}
    (stands : Stands source before lexer) (short : source.length < Token.lastLine) :
    lexer.cursor.place.line.toNat = Text.lineBehind before ∧
      lexer.cursor.place.column.toNat = Text.columnBehind before := by
  rw [← String.length_toList, stands.whole, List.length_append] at short
  rw [stands.place]
  exact Place.numbers_after (Nat.lt_of_le_of_lt (Nat.le_add_right _ _) short)

theorem position_le_ask {source : String} {before : List Char} {lexer : Lexer} {call : Call}
    (stands : Stands source before lexer) (going : call ≠ .reset) :
    lexer.position ≤ (lexer.ask call).2.position := by
  obtain ⟨passed, moved⟩ := (gives_ask stands going).exists_stands
  rw [stands.position_append moved]
  omega

/-- A token is written between the old position and the new one, at which its span ends. -/
theorem token_of_ask {source : String} {before : List Char} {lexer : Lexer} {call : Call}
    {token : Token} (stands : Stands source before lexer)
    (given : (lexer.ask call).1 = some (.ok token)) :
    lexer.position ≤ token.span.start ∧ token.span.start < token.span.stop ∧
      token.span.stop = (lexer.ask call).2.position ∧
      String.Pos.Raw.IsValid source ⟨token.span.start⟩ ∧
      ∃ left lexeme, source.toList = left ++ (lexeme ++ (lexer.ask call).2.cursor.rest) ∧
        token.kind.Written lexeme (lexer.ask call).2.cursor.rest ∧
        token.span = .behind left lexeme ∧ token.span.text source = String.ofList lexeme := by
  have going : call ≠ .reset := by
    rintro rfl
    cases given
  have gives := gives_ask stands going
  rw [given] at gives
  cases gives with
  | @token gap lexeme kind _ written moved =>
      have whole := moved.whole
      rw [List.append_assoc] at whole
      have positive := written.size_pos
      have skipped := Place.offset_append before gap
      have taken := Place.offset_append (before ++ gap) lexeme
      refine ⟨?_, ?_, ?_, valid_after whole, before ++ gap, lexeme, whole, written, rfl,
        Span.text_behind whole⟩
      · rw [position, stands.place, Span.behind]
        dsimp only
        omega
      · rw [Span.behind]
        dsimp only
        omega
      · rw [position, moved.place]
        rfl

/-- An error is placed where the bad lexeme begins, and the lexer stops where its reading gives up. -/
theorem error_of_ask {source : String} {before : List Char} {lexer : Lexer} {call : Call}
    {error : BuildError} (stands : Stands source before lexer)
    (given : (lexer.ask call).1 = some (.error error)) :
    ∃ left problem passed, error = .lexAt problem (.after left) ∧
      source.toList = left ++ (passed ++ (lexer.ask call).2.cursor.rest) ∧
      problem.Stops passed (lexer.ask call).2.cursor.rest := by
  have going : call ≠ .reset := by
    rintro rfl
    cases given
  have gives := gives_ask stands going
  rw [given] at gives
  cases gives with
  | @failure gap passed problem _ stops moved =>
      exact ⟨before ++ gap, problem, passed, rfl, by simpa using moved.whole, stops⟩

/-! ### The stream from any state -/

def items (tokens : List Token) (failure : Option BuildError) : List (Except BuildError Token) :=
  tokens.map .ok ++ failure.toList.map .error

theorem answers_next_succ {lexer after : Lexer} {item : Option (Except BuildError Token)}
    (asked : lexer.next = (item, after)) (count : Nat) :
    lexer.answers (List.replicate (count + 1) .next) =
      item :: after.answers (List.replicate count .next) := by
  rw [List.replicate_succ, answers, ask, asked]

theorem answers_of_ended {lexer : Lexer} (ended : lexer.next = (none, lexer)) (count : Nat) :
    lexer.answers (List.replicate count .next) = List.replicate count none := by
  induction count with
  | zero => rfl
  | succ count induction => rw [answers_next_succ ended, induction, List.replicate_succ]

/-- The first calls give the items of the stream in order, and the calls behind them nothing. -/
theorem Yields.answers_eq {lexer : Lexer} {tokens : List Token} {failure : Option BuildError}
    (yields : lexer.Yields tokens failure) (count : Nat) :
    lexer.answers (List.replicate count .next) =
      (List.range count).map fun place => (items tokens failure)[place]? := by
  induction yields generalizing count with
  | finished item ended =>
      cases count with
      | zero => rfl
      | succ count =>
          rw [answers_next_succ item, answers_of_ended ended]
          simp [items, List.replicate_succ]
  | failed item ended =>
      cases count with
      | zero => rfl
      | succ count =>
          rw [answers_next_succ item, answers_of_ended ended, List.range_succ_eq_map]
          simp [items, Function.comp_def]
  | token item later induction =>
      cases count with
      | zero => rfl
      | succ count =>
          rw [answers_next_succ item, induction, List.range_succ_eq_map]
          simp [items, Function.comp_def]

theorem exists_yields (lexer : Lexer) :
    ∃ tokens failure, lexer.Yields tokens failure ∧ tokens.length ≤ lexer.cursor.rest.length := by
  obtain ⟨source, cursor, failed⟩ := lexer
  cases failed with
  | true => exact ⟨[], none, .finished rfl rfl, by simp⟩
  | false => exact ⟨_, _, yields_drain source cursor, cursor.drain_length_le⟩

/-- Whatever has been asked of a lexer, it stands at a boundary of its source, its place is counted
in the text before this boundary, and it has the text behind it still to read. Lines and columns are
exact as long as there are no more characters than can be counted. No call but a reset takes the
lexer back. A token is written in the source where its span says, between the old position and the new
one. An error is placed where a bad lexeme begins, and the lexer stops in it where its reading gives
up. A reset makes the lexer answer as a new one does. The stream gives at most one token for each
character of the source, then perhaps one error, and then nothing more. -/
theorem calls_keep_place (source : String) (calls : List Call) {lexer : Lexer}
    (reached : (ofSource source).afterCalls calls = lexer) :
    (∃ before, source.toList = before ++ lexer.cursor.rest ∧ lexer.cursor.place = .after before ∧
      (source.length < Token.lastLine →
        lexer.cursor.place.line.toNat = Text.lineBehind before ∧
          lexer.cursor.place.column.toNat = Text.columnBehind before)) ∧
    String.Pos.Raw.IsValid source ⟨lexer.position⟩ ∧ lexer.position ≤ source.utf8ByteSize ∧
    (∀ call, call ≠ .reset → lexer.position ≤ (lexer.ask call).2.position) ∧
    (∀ call token, (lexer.ask call).1 = some (.ok token) →
      lexer.position ≤ token.span.start ∧ token.span.start < token.span.stop ∧
        token.span.stop = (lexer.ask call).2.position ∧
        String.Pos.Raw.IsValid source ⟨token.span.start⟩ ∧
        ∃ left lexeme, source.toList = left ++ (lexeme ++ (lexer.ask call).2.cursor.rest) ∧
          token.kind.Written lexeme (lexer.ask call).2.cursor.rest ∧
          token.span = .behind left lexeme ∧ token.span.text source = String.ofList lexeme) ∧
    (∀ call error, (lexer.ask call).1 = some (.error error) →
      ∃ left problem passed, error = .lexAt problem (.after left) ∧
        source.toList = left ++ (passed ++ (lexer.ask call).2.cursor.rest) ∧
        problem.Stops passed (lexer.ask call).2.cursor.rest) ∧
    (∀ later, (lexer.ask .reset).2.answers later = (ofSource source).answers later) ∧
    ∃ tokens failure, tokens.length ≤ source.length ∧
      ∀ count, lexer.answers (List.replicate count .next) =
        (List.range count).map fun place => (items tokens failure)[place]? := by
  obtain ⟨before, stands⟩ := exists_stands_after_calls (stands_of_source source) calls
  rw [reached] at stands
  have fewer : lexer.cursor.rest.length ≤ source.length := by
    rw [← String.length_toList, stands.whole, List.length_append]
    omega
  refine ⟨⟨before, stands.whole, stands.place, stands.numbers⟩, stands.valid,
    stands.valid.le_utf8ByteSize, fun call going => position_le_ask stands going,
    fun call token given => token_of_ask stands given,
    fun call error given => error_of_ask stands given, ?_, ?_⟩
  · intro later
    rw [ask_reset stands]
  · obtain ⟨tokens, failure, yields, bounded⟩ := exists_yields lexer
    exact ⟨tokens, failure, bounded.trans fewer, yields.answers_eq⟩

def brokenText : String := "a @\n9223372036854775808\t'é\n"

/-- Three errors in a row, each of which leaves the lexer at another place, and a call of the stream
that gives nothing between them. -/
theorem broken_text_keeps_place :
    (ofSource brokenText).afterCalls [.nextToken, .next, .next, .nextToken, .nextToken] =
        ⟨brokenText, ⟨⟨28, 3, 1⟩, []⟩, true⟩ ∧
      String.Pos.Raw.IsValid brokenText ⟨28⟩ ∧
      (∀ later, (ofSource brokenText).answers later =
        (Lexer.ask ⟨brokenText, ⟨⟨28, 3, 1⟩, []⟩, true⟩ .reset).2.answers later) ∧
      ∃ left problem passed,
        BuildError.lex .integerOutOfRange 4 2 1 = .lexAt problem (.after left) ∧
          brokenText.toList = left ++ (passed ++ ['\t', '\x27', 'é', '\n']) ∧
          problem.Stops passed ['\t', '\x27', 'é', '\n'] := by
  have reached : (ofSource brokenText).afterCalls [.nextToken, .next, .next, .nextToken, .nextToken] =
      ⟨brokenText, ⟨⟨28, 3, 1⟩, []⟩, true⟩ := by decide +kernel
  have before : (ofSource brokenText).afterCalls [.nextToken, .next, .next] =
      ⟨brokenText, ⟨⟨3, 1, 4⟩, "\n9223372036854775808\t'é\n".toList⟩, true⟩ := by decide +kernel
  have refused : Lexer.ask ⟨brokenText, ⟨⟨3, 1, 4⟩, "\n9223372036854775808\t'é\n".toList⟩, true⟩
      .nextToken = (some (.error (.lex .integerOutOfRange 4 2 1)),
        ⟨brokenText, ⟨⟨23, 2, 20⟩, ['\t', '\x27', 'é', '\n']⟩, true⟩) := by decide +kernel
  obtain ⟨-, valid, -, -, -, -, again, -⟩ := calls_keep_place brokenText _ reached
  obtain ⟨-, -, -, -, -, errors, -, -⟩ := calls_keep_place brokenText _ before
  have stops := errors .nextToken (.lex .integerOutOfRange 4 2 1) (congrArg Prod.fst refused)
  rw [refused] at stops
  exact ⟨reached, valid, fun later => (again later).symm, stops⟩

end Lexer

end ThreeAddress
