import Mathlib.Data.List.DropRight
import ThreeAddress.Proofs.Layout

/-!
Where tokens stand. A text consists of gaps, made of blanks and comments, with the spellings of
tokens between them, up to its end or to the first place where no token is written. The scanner
gives exactly these tokens, each with the bytes, lines and columns that are counted in the text
before it, and the text before an error has the same tokens and no error.
-/

namespace ThreeAddress

namespace Text

inductive Gap : List Char → Prop where
  | nil : Gap []
  | blank {c : Char} {gap : List Char} (white : isBlank c = true) (later : Gap gap) : Gap (c :: gap)
  | comment {words gap : List Char} (inside : '\n' ∉ words) (later : Gap gap) :
      Gap (';' :: (words ++ '\n' :: gap))

/-- What may stand after the last token: a gap, and then perhaps a comment that nothing closes. -/
inductive Ending : List Char → Prop where
  | gap {text : List Char} (spaced : Gap text) : Ending text
  | comment {gap words : List Char} (spaced : Gap gap) (inside : '\n' ∉ words) :
      Ending (gap ++ ';' :: words)

def Solid (c : Char) : Prop := isBlank c = false ∧ c ≠ ';'

theorem Gap.append {first second : List Char} (left : Gap first) (right : Gap second) :
    Gap (first ++ second) := by
  induction left with
  | nil => exact right
  | blank white later induction => exact .blank white induction
  | comment inside later induction =>
      rw [List.cons_append, List.append_assoc]
      exact .comment inside induction

theorem Gap.append_ending {gap text : List Char} (spaced : Gap gap) (ending : Ending text) :
    Ending (gap ++ text) := by
  cases ending with
  | gap later => exact .gap (spaced.append later)
  | comment later inside =>
      rw [← List.append_assoc]
      exact .comment (spaced.append later) inside

theorem Gap.not_solid {gap : List Char} {c : Char} (spaced : Gap (c :: gap)) : ¬ Solid c := by
  intro solid
  cases spaced with
  | blank white later =>
      rw [solid.1] at white
      cases white
  | comment inside later => exact solid.2 rfl

/-- After its first gap, a text goes on with something else or is over. -/
theorem splits_or_ends (text : List Char) :
    (∃ gap first more, text = gap ++ first :: more ∧ Gap gap ∧ Solid first) ∨ Ending text := by
  induction size : text.length using Nat.strong_induction_on generalizing text with
  | _ size induction =>
      subst size
      cases text with
      | nil => exact .inr (.gap .nil)
      | cons c rest =>
          by_cases white : isBlank c = true
          · have skipped : Gap [c] := .blank white .nil
            rcases induction rest.length (by simp) rest rfl with
              ⟨gap, first, more, rfl, spaced, solid⟩ | ending
            · exact .inl ⟨c :: gap, first, more, rfl, skipped.append spaced, solid⟩
            · exact .inr (skipped.append_ending ending)
          · by_cases comment : c = ';'
            · subst comment
              by_cases closed : '\n' ∈ rest
              · obtain ⟨words, later, rfl, inside⟩ := List.eq_append_cons_of_mem closed
                have skipped : Gap (';' :: (words ++ ['\n'])) := .comment inside .nil
                have whole : ∀ text, ';' :: (words ++ '\n' :: text) =
                    (';' :: (words ++ ['\n'])) ++ text := by simp
                rcases induction later.length (by simp; omega) later rfl with
                  ⟨gap, first, more, rfl, spaced, solid⟩ | ending
                · refine .inl ⟨_, first, more, ?_, skipped.append spaced, solid⟩
                  rw [whole, List.append_assoc]
                · rw [whole]
                  exact .inr (skipped.append_ending ending)
              · exact .inr (.comment .nil closed)
            · exact .inl ⟨[], c, rest, rfl, .nil, by simpa using white, comment⟩

end Text

namespace Text

def lineBehind (before : List Char) : Nat := 1 + before.count '\n'

def columnBehind (before : List Char) : Nat := 1 + (before.rtakeWhile (· != '\n')).length

theorem column_behind_le (before : List Char) : columnBehind before ≤ 1 + before.length :=
  Nat.add_le_add_left (List.rtakeWhile_suffix _ before).length_le 1

end Text

/-- The place behind a text: its bytes, its line breaks and the characters since the last line break
are counted. -/
def Place.after (before : List Char) : Place :=
  ⟨(String.ofList before).utf8ByteSize, .ofNat (Text.lineBehind before),
    .ofNat (Text.columnBehind before)⟩

def Span.behind (before lexeme : List Char) : Span :=
  ⟨(Place.after before).offset, (Place.after (before ++ lexeme)).offset,
    (Place.after before).line.toNat, (Place.after before).column.toNat⟩

def BuildError.lexAt (problem : LexProblem) (place : Place) : BuildError :=
  .lex problem place.offset place.line.toNat place.column.toNat

namespace Place

theorem line_after_le (before : List Char) :
    (Place.after before).line.toNat ≤ Text.lineBehind before := by
  rw [after, UInt32.toNat_ofNat']
  exact Nat.mod_le _ _

theorem line_after {before : List Char} (few : before.count '\n' < Token.lastLine) :
    (Place.after before).line.toNat = Text.lineBehind before := by
  have last : Token.lastLine = 2 ^ 32 - 1 := rfl
  rw [after, UInt32.toNat_ofNat', Text.lineBehind]
  omega

/-- As long as there are no more characters than can be counted, line and column are exact. -/
theorem numbers_after {before : List Char} (short : before.length < Token.lastLine) :
    (Place.after before).line.toNat = Text.lineBehind before ∧
      (Place.after before).column.toNat = Text.columnBehind before := by
  have column := Text.column_behind_le before
  have last : Token.lastLine = 2 ^ 32 - 1 := rfl
  refine ⟨line_after (Nat.lt_of_le_of_lt List.count_le_length short), ?_⟩
  rw [after, UInt32.toNat_ofNat']
  omega

theorem after_concat (before : List Char) (c : Char) :
    Place.after (before ++ [c]) = (Place.after before).advance c := by
  have bytes : (String.ofList (before ++ [c])).utf8ByteSize =
      (String.ofList before).utf8ByteSize + c.utf8Size := by
    rw [String.ofList_append, String.utf8ByteSize_append, ← String.singleton_eq_ofList,
      String.utf8ByteSize_singleton]
  rw [after, bytes]
  by_cases broken : c = '\n'
  · simp [after, advance, broken, Text.lineBehind, Text.columnBehind, UInt32.add_assoc]
  · simp [after, advance, broken, Text.lineBehind, Text.columnBehind, UInt32.add_assoc]

theorem past_after (before text : List Char) :
    (Place.after before).past text = Place.after (before ++ text) := by
  induction text generalizing before with
  | nil => simp
  | cons c text induction =>
      rw [past_cons, ← after_concat, induction, List.append_assoc]
      rfl

theorem offset_append (before text : List Char) :
    (Place.after (before ++ text)).offset =
      (Place.after before).offset + (String.ofList text).utf8ByteSize := by
  simp only [after, String.ofList_append, String.utf8ByteSize_append]

end Place

namespace Span

theorem text_from_behind {span : Span} {offset : Nat} (behind : span.stop ≤ offset)
    (text : List Char) : span.textFrom offset text = [] := by
  induction text generalizing offset with
  | nil => rfl
  | cons c text induction =>
      have outside : (decide (span.start ≤ offset) && decide (offset < span.stop)) = false := by
        simp [Nat.not_lt.2 behind]
      simp only [textFrom, outside, Bool.false_eq_true, if_false]
      exact induction (by omega)

theorem text_from_before {span : Span} {offset : Nat} (text rest : List Char)
    (before : offset + (String.ofList text).utf8ByteSize ≤ span.start) :
    span.textFrom offset (text ++ rest) =
      span.textFrom (offset + (String.ofList text).utf8ByteSize) rest := by
  induction text generalizing offset with
  | nil => simp
  | cons c text induction =>
      have positive := c.utf8Size_pos
      rw [String.ofList_cons, String.utf8ByteSize_append, String.utf8ByteSize_singleton,
        ← Nat.add_assoc] at before ⊢
      have outside : (decide (span.start ≤ offset) && decide (offset < span.stop)) = false := by
        simp only [Bool.and_eq_false_iff, decide_eq_false_iff_not]
        omega
      simp only [List.cons_append, textFrom, outside, Bool.false_eq_true, if_false]
      exact induction before

theorem text_from_inside {span : Span} {offset : Nat} (text rest : List Char)
    (start : span.start ≤ offset) (stop : offset + (String.ofList text).utf8ByteSize ≤ span.stop) :
    span.textFrom offset (text ++ rest) =
      text ++ span.textFrom (offset + (String.ofList text).utf8ByteSize) rest := by
  induction text generalizing offset with
  | nil => simp
  | cons c text induction =>
      have positive := c.utf8Size_pos
      rw [String.ofList_cons, String.utf8ByteSize_append, String.utf8ByteSize_singleton,
        ← Nat.add_assoc] at stop ⊢
      have inside : (decide (span.start ≤ offset) && decide (offset < span.stop)) = true := by
        simp only [Bool.and_eq_true, decide_eq_true_eq]
        omega
      simp only [List.cons_append, textFrom, inside, if_true]
      rw [induction (by omega) stop]

theorem text_eq {span : Span} {source : String} {before lexeme after : List Char}
    (whole : source.toList = before ++ (lexeme ++ after))
    (start : span.start = (Place.after before).offset)
    (stop : span.stop = (Place.after (before ++ lexeme)).offset) :
    span.text source = String.ofList lexeme := by
  have bytes : (Place.after before).offset = (String.ofList before).utf8ByteSize := rfl
  rw [Place.offset_append] at stop
  rw [text, whole, text_from_before before _ (by omega),
    text_from_inside lexeme _ (by omega) (by omega), text_from_behind (by omega), List.append_nil]

theorem text_behind {source : String} {before lexeme after : List Char}
    (whole : source.toList = before ++ (lexeme ++ after)) :
    (Span.behind before lexeme).text source = String.ofList lexeme := text_eq whole rfl rfl

end Span

namespace Cursor

open Text

theorem skip_comment_words {words : List Char} (inside : '\n' ∉ words) (place : Place)
    (rest : List Char) :
    skipTriviaFrom true place (words ++ rest) = skipTriviaFrom true (place.past words) rest := by
  induction words generalizing place with
  | nil => rfl
  | cons c words induction =>
      rw [List.mem_cons, not_or] at inside
      have stays : (c != '\n') = true := by simpa using Ne.symm inside.1
      rw [List.cons_append, skipTriviaFrom, if_pos rfl, stays, induction inside.2]
      rfl

theorem skip_gap {gap : List Char} (spaced : Gap gap) (place : Place) (rest : List Char) :
    skipTriviaFrom false place (gap ++ rest) = skipTriviaFrom false (place.past gap) rest := by
  induction spaced generalizing place with
  | nil => rfl
  | blank white later induction =>
      rw [List.cons_append, skipTriviaFrom, if_neg (by decide), if_pos white, induction]
      rfl
  | @comment words gap inside later induction =>
      rw [List.cons_append, List.append_assoc, skipTriviaFrom, if_neg (by decide),
        if_neg (by decide), if_pos (by decide), skip_comment_words inside, List.cons_append,
        skipTriviaFrom, if_pos rfl, bne_self_eq_false, induction, ← Place.past_cons,
        ← Place.past_append, ← Place.past_cons]

theorem skip_trivia_ending {text : List Char} (ending : Ending text) (place : Place) :
    skipTrivia ⟨place, text⟩ = ⟨place.past text, []⟩ := by
  cases ending with
  | gap spaced =>
      have skipped := skip_gap spaced place []
      rw [List.append_nil] at skipped
      exact skipped
  | @comment gap words spaced inside =>
      have skipped := skip_comment_words inside ((place.past gap).advance ';') []
      rw [List.append_nil] at skipped
      rw [skipTrivia, skip_gap spaced, skipTriviaFrom, if_neg (by decide), if_neg (by decide),
        if_pos (by decide), skipped, Place.past_append, Place.past_cons]
      rfl

theorem skip_trivia_solid {gap more : List Char} {first : Char} (spaced : Gap gap)
    (solid : Solid first) (place : Place) :
    skipTrivia ⟨place, gap ++ first :: more⟩ = ⟨place.past gap, first :: more⟩ := by
  rw [skipTrivia, skip_gap spaced, skipTriviaFrom, if_neg (by decide), if_neg (by simp [solid.1]),
    if_neg (by simpa using solid.2)]

theorem scan_ending {text : List Char} (ending : Ending text) (place : Place) :
    scan ⟨place, text⟩ = .finished ⟨place.past text, []⟩ := by
  rw [scan, skip_trivia_ending ending]

theorem scan_of_finished {cursor after : Cursor} (scanned : cursor.scan = .finished after) :
    after.scan = .finished after := by
  unfold scan at scanned
  dsimp only at scanned
  split at scanned
  · rename_i ended
    cases scanned
    generalize cursor.skipTrivia = stopped at ended ⊢
    obtain ⟨place, rest⟩ := stopped
    cases ended
    rfl
  · split at scanned <;> cases scanned

theorem scan_written {before gap lexeme after : List Char} {kind : TokenKind} (spaced : Gap gap)
    (written : kind.Written lexeme after) :
    scan ⟨.after before, gap ++ (lexeme ++ after)⟩ =
      .token ⟨kind, .behind (before ++ gap) lexeme⟩ ⟨.after (before ++ gap ++ lexeme), after⟩ := by
  obtain ⟨first, more, whole, token⟩ := Lexeme.read_of_written written
  have solid : Solid first := Lexeme.not_trivia_of_read token
  rw [whole, scan, skip_trivia_solid spaced solid]
  simp only [token, skip, ← whole, List.take_left, List.drop_left, Place.past_after]
  rfl

theorem scan_refused (before : List Char) {gap more : List Char} {first : Char}
    {problem : LexProblem} {length : Nat} (spaced : Gap gap) (solid : Solid first)
    (refused : Lexeme.read first more = .failure problem length) :
    ∃ stopped, scan ⟨.after before, gap ++ first :: more⟩ =
      .failure (.lexAt problem (.after (before ++ gap))) stopped := by
  rw [scan, skip_trivia_solid spaced solid]
  simp only [refused, Place.past_after]
  exact ⟨_, rfl⟩

end Cursor

/-- The tokens of a text behind another one, and the error that ends them, as they stand in it. -/
inductive Laid : List Char → List Char → List Token → Option BuildError → Prop where
  | finished {before rest : List Char} (ending : Text.Ending rest) : Laid before rest [] none
  | failed {before gap more : List Char} {first : Char} {problem : LexProblem}
      (spaced : Text.Gap gap) (solid : Text.Solid first)
      (refused : ∀ kind lexeme after, first :: more = lexeme ++ after →
        ¬ TokenKind.Written kind lexeme after) :
      Laid before (gap ++ first :: more) [] (some (.lexAt problem (.after (before ++ gap))))
  | token {before gap lexeme after : List Char} {kind : TokenKind} {tokens : List Token}
      {failure : Option BuildError} (spaced : Text.Gap gap) (written : kind.Written lexeme after)
      (later : Laid (before ++ gap ++ lexeme) after tokens failure) :
      Laid before (gap ++ (lexeme ++ after)) (⟨kind, .behind (before ++ gap) lexeme⟩ :: tokens)
        failure

namespace Laid

theorem of_drain (before rest : List Char) :
    Laid before rest (Cursor.drain ⟨.after before, rest⟩).1
      (Cursor.drain ⟨.after before, rest⟩).2 := by
  induction size : rest.length using Nat.strong_induction_on generalizing before rest with
  | _ size induction =>
      subst size
      rcases Text.splits_or_ends rest with ⟨gap, first, more, rfl, spaced, solid⟩ | ending
      -- Scanning reads at the end of the gap, and what it refuses there no token is written as.
      · cases recognized : Lexeme.read first more with
        | token kind length =>
            obtain ⟨lexeme, after, whole, taken, written⟩ := Lexeme.fronts_of_read recognized
            have positive := Lexeme.read_length_pos recognized
            rw [whole, Cursor.drain_of_token (Cursor.scan_written spaced written)]
            apply Laid.token spaced written
            apply induction after.length _ _ _ rfl
            rw [whole, List.length_append, List.length_append]
            omega
        | failure problem length =>
            obtain ⟨stopped, scanned⟩ := Cursor.scan_refused before spaced solid recognized
            rw [Cursor.drain_of_failure scanned]
            apply Laid.failed spaced solid
            intro kind lexeme after whole written
            obtain ⟨other, others, same, token⟩ := Lexeme.read_of_written written
            cases whole.trans same
            rw [recognized] at token
            cases token
      · rw [Cursor.drain_of_finished (Cursor.scan_ending ending _)]
        exact .finished ending

theorem drain_eq {before rest : List Char} {tokens : List Token} {failure : Option BuildError}
    (laid : Laid before rest tokens failure) (complete : failure = none) :
    Cursor.drain ⟨.after before, rest⟩ = (tokens, none) := by
  induction laid with
  | finished ending => exact Cursor.drain_of_finished (Cursor.scan_ending ending _)
  | failed spaced solid refused => cases complete
  | token spaced written later induction =>
      rw [Cursor.drain_of_token (Cursor.scan_written spaced written), induction complete]

/-! ### Spans -/

theorem stands {before rest : List Char} {tokens : List Token} {failure : Option BuildError}
    (laid : Laid before rest tokens failure) {token : Token} (member : token ∈ tokens) :
    ∃ left lexeme right, before ++ rest = left ++ (lexeme ++ right) ∧
      token.kind.Written lexeme right ∧ token.span = .behind left lexeme ∧
      (Place.after before).offset ≤ token.span.start := by
  induction laid with
  | finished ending => cases member
  | failed spaced solid refused => cases member
  | @token before gap lexeme after kind tokens failure spaced written later induction =>
      rcases List.mem_cons.1 member with rfl | inside
      · refine ⟨before ++ gap, lexeme, after, by simp, written, rfl, ?_⟩
        have behind := Place.offset_append before gap
        simp only [Span.behind]
        omega
      · obtain ⟨left, other, right, whole, spelled, span, start⟩ := induction inside
        refine ⟨left, other, right, by simpa using whole, spelled, span, ?_⟩
        rw [List.append_assoc, Place.offset_append] at start
        omega

theorem ordered {before rest : List Char} {tokens : List Token} {failure : Option BuildError}
    (laid : Laid before rest tokens failure) :
    tokens.Pairwise fun left right => left.span.stop ≤ right.span.start := by
  induction laid with
  | finished ending => exact .nil
  | failed spaced solid refused => exact .nil
  | token spaced written later induction =>
      apply List.Pairwise.cons _ induction
      intro other member
      obtain ⟨-, -, -, -, -, -, start⟩ := later.stands member
      exact start

/-! ### The text before an error -/

def Uncut (text kept : List Char) : Prop :=
  text.take 2 = [':', '='] → kept = [] ∨ kept.take 2 = [':', '=']

theorem written_of_cut {kind : TokenKind} {lexeme kept bad : List Char}
    (written : kind.Written lexeme (kept ++ bad)) (uncut : Uncut (kept ++ bad) kept) :
    kind.Written lexeme kept := by
  apply written.with_after
  · intro c found
    rw [List.head?_append, found]
    rfl
  · intro colon assign
    rcases uncut assign with rfl | assigned
    · cases colon
    · exact assigned

theorem gap_before_assign {gap text : List Char} (spaced : Text.Gap gap)
    (assign : (gap ++ text).take 2 = [':', '=']) : gap = [] := by
  cases gap with
  | nil => rfl
  | cons c gap =>
      have colon : c = ':' := (List.cons.inj assign).1
      have solid : Text.Solid c := by
        rw [colon]
        exact ⟨by decide, by decide⟩
      exact absurd solid spaced.not_solid

/-- A token that is written where a text goes on with `:=` is spelled so. -/
theorem lexeme_of_assign {kind : TokenKind} {lexeme after : List Char}
    (written : kind.Written lexeme after) (assign : (lexeme ++ after).take 2 = [':', '=']) :
    lexeme = [':', '='] := by
  obtain ⟨first, more, whole, token⟩ := Lexeme.read_of_written written
  have length : lexeme.length = 2 := by
    rw [whole] at assign
    obtain ⟨rfl, rest⟩ := List.cons.inj assign
    cases more with
    | nil => cases rest
    | cons c later =>
        obtain ⟨rfl, -⟩ := List.cons.inj rest
        exact (Lexeme.token.inj token).2.symm
  rw [← assign, ← length, List.take_left]

theorem cut {before rest : List Char} {tokens : List Token} {failure : Option BuildError}
    {error : BuildError} (laid : Laid before rest tokens failure) (failed : failure = some error) :
    ∃ kept bad problem, rest = kept ++ bad ∧ Laid before kept tokens none ∧ Uncut rest kept ∧
      error = .lexAt problem (.after (before ++ kept)) := by
  induction laid with
  | finished ending => cases failed
  | @failed before gap more first problem spaced solid refused =>
      cases failed
      refine ⟨gap, first :: more, problem, rfl, .finished (.gap spaced), ?_, rfl⟩
      intro assign
      exact .inl (gap_before_assign spaced assign)
  | @token before gap lexeme after kind tokens failure spaced written later induction =>
      obtain ⟨kept, bad, problem, rfl, complete, uncut, same⟩ := induction failed
      have shorter := written_of_cut written uncut
      have whole : gap ++ (lexeme ++ (kept ++ bad)) = gap ++ (lexeme ++ kept) ++ bad := by simp
      refine ⟨_, bad, problem, whole, .token spaced shorter complete, ?_, ?_⟩
      · intro assign
        have empty := gap_before_assign spaced assign
        subst empty
        rw [lexeme_of_assign written assign]
        exact .inr rfl
      · rw [same]
        simp only [List.append_assoc]

end Laid

theorem TokenKind.Written.size_pos {kind : TokenKind} {lexeme after : List Char}
    (written : kind.Written lexeme after) : 0 < (String.ofList lexeme).utf8ByteSize := by
  obtain ⟨first, more, whole, token⟩ := Lexeme.read_of_written written
  have positive := Lexeme.read_length_pos token
  cases lexeme with
  | nil => cases positive
  | cons c lexeme =>
      have bytes := c.utf8Size_pos
      rw [String.ofList_cons, String.utf8ByteSize_append, String.utf8ByteSize_singleton]
      omega

namespace Lexer

/-- The stream gives these tokens, then the error if there is one, and then is over. -/
inductive Yields : Lexer → List Token → Option BuildError → Prop where
  | finished {lexer after : Lexer} (item : lexer.next = (none, after))
      (ended : after.next = (none, after)) : Yields lexer [] none
  | failed {lexer after : Lexer} {error : BuildError}
      (item : lexer.next = (some (.error error), after)) (ended : after.next = (none, after)) :
      Yields lexer [] (some error)
  | token {lexer after : Lexer} {token : Token} {tokens : List Token} {failure : Option BuildError}
      (item : lexer.next = (some (.ok token), after)) (later : Yields after tokens failure) :
      Yields lexer (token :: tokens) failure

theorem next_of_finished (source : String) {cursor after : Cursor}
    (scanned : cursor.scan = .finished after) :
    next ⟨source, cursor, false⟩ = (none, ⟨source, after, false⟩) := by
  simp [next, nextToken, scanned]

theorem next_of_token (source : String) {cursor after : Cursor} {token : Token}
    (scanned : cursor.scan = .token token after) :
    next ⟨source, cursor, false⟩ = (some (.ok token), ⟨source, after, false⟩) := by
  simp [next, nextToken, scanned]

theorem next_of_failure (source : String) {cursor after : Cursor} {error : BuildError}
    (scanned : cursor.scan = .failure error after) :
    next ⟨source, cursor, false⟩ = (some (.error error), ⟨source, after, true⟩) := by
  simp [next, nextToken, scanned]

theorem yields_drain (source : String) (cursor : Cursor) :
    Yields ⟨source, cursor, false⟩ cursor.drain.1 cursor.drain.2 := by
  fun_induction Cursor.drain cursor with
  | case1 cursor after scanned =>
      have again := Cursor.scan_of_finished scanned
      exact .finished (next_of_finished source scanned) (next_of_finished source again)
  | case2 cursor token after scanned tokens failure drained induction =>
      rw [drained] at induction
      exact .token (next_of_token source scanned) induction
  | case3 cursor error after scanned => exact .failed (next_of_failure source scanned) rfl

theorem Yields.unique {lexer : Lexer} {tokens others : List Token}
    {failure other : Option BuildError} (first : lexer.Yields tokens failure)
    (second : lexer.Yields others other) : tokens = others ∧ failure = other := by
  induction first generalizing others other with
  | finished item ended =>
      cases second with
      | finished same ended => exact ⟨rfl, rfl⟩
      | failed same ended => cases item.symm.trans same
      | token same later => cases item.symm.trans same
  | failed item ended =>
      cases second with
      | finished same ended => cases item.symm.trans same
      | failed same ended =>
          cases item.symm.trans same
          exact ⟨rfl, rfl⟩
      | token same later => cases item.symm.trans same
  | token item later induction =>
      cases second with
      | finished same ended => cases item.symm.trans same
      | failed same ended => cases item.symm.trans same
      | token same others =>
          cases item.symm.trans same
          obtain ⟨rfl, rfl⟩ := induction others
          exact ⟨rfl, rfl⟩

theorem Yields.laid {source : String} {tokens : List Token} {failure : Option BuildError}
    (yields : (ofSource source).Yields tokens failure) :
    Laid [] source.toList tokens failure := by
  obtain ⟨rfl, rfl⟩ := (yields_drain source (.ofText source.toList)).unique yields
  exact Laid.of_drain [] source.toList

/-- Every token and every error is placed exactly. The tokens of the stream are laid out in the
source, each is written where its span says, their spans follow one another, and an error stands
behind a text that has the same tokens and no error. Lines and columns are those that are counted in
the text before, as long as there are no more characters than can be counted. -/
theorem places_tokens_exactly (source : String) :
    (∃ tokens failure, (ofSource source).Yields tokens failure) ∧
      ∀ tokens failure, (ofSource source).Yields tokens failure →
        Laid [] source.toList tokens failure ∧
        (∀ token ∈ tokens, ∃ before lexeme after,
          source.toList = before ++ (lexeme ++ after) ∧ token.kind.Written lexeme after ∧
            token.span = .behind before lexeme ∧ token.span.text source = String.ofList lexeme ∧
            token.span.start < token.span.stop ∧ token.span.stop ≤ source.utf8ByteSize ∧
            (source.length < Token.lastLine → token.span.line = Text.lineBehind before ∧
              token.span.column = Text.columnBehind before)) ∧
        tokens.Pairwise (fun left right => left.span.stop ≤ right.span.start) ∧
        ∀ error ∈ failure, ∃ before rest problem,
          source.toList = before ++ rest ∧ error = .lexAt problem (.after before) ∧
            tokenize (String.ofList before) = .ok tokens ∧
            (source.length < Token.lastLine → error = .lex problem (Place.after before).offset
              (Text.lineBehind before) (Text.columnBehind before)) := by
  have laid : Laid [] source.toList (Cursor.ofText source.toList).drain.1
      (Cursor.ofText source.toList).drain.2 := Laid.of_drain [] source.toList
  have drained := yields_drain source (.ofText source.toList)
  refine ⟨⟨_, _, drained⟩, ?_⟩
  intro tokens failure yields
  obtain ⟨rfl, rfl⟩ := drained.unique yields
  have numbers : ∀ before rest, source.toList = before ++ rest → source.length < Token.lastLine →
      (Place.after before).line.toNat = Text.lineBehind before ∧
        (Place.after before).column.toNat = Text.columnBehind before := by
    intro before rest whole short
    rw [← String.length_toList, whole, List.length_append] at short
    exact Place.numbers_after (Nat.lt_of_le_of_lt (Nat.le_add_right _ _) short)
  refine ⟨laid, ?_, laid.ordered, ?_⟩
  · intro token member
    obtain ⟨before, lexeme, after, whole, written, span, -⟩ := laid.stands member
    rw [List.nil_append] at whole
    have positive := written.size_pos
    have stop := Place.offset_append before lexeme
    have bytes : source.utf8ByteSize = (Place.after (before ++ lexeme)).offset +
        (String.ofList after).utf8ByteSize := by
      rw [← Place.offset_append, List.append_assoc, ← whole]
      simp [Place.after]
    refine ⟨before, lexeme, after, whole, written, span, ?_, ?_, ?_, ?_⟩
    · rw [span, Span.text_behind whole]
    · rw [span, Span.behind]
      dsimp only
      omega
    · rw [span, Span.behind]
      dsimp only
      omega
    · intro short
      rw [span]
      exact numbers before _ whole short
  · intro error failed
    obtain ⟨before, rest, problem, whole, complete, -, same⟩ := laid.cut failed
    have all : (Cursor.ofText before).drain = _ := complete.drain_eq rfl
    refine ⟨before, rest, problem, whole, same, ?_, ?_⟩
    · simp only [tokenize, String.toList_ofList, all]
    · intro short
      obtain ⟨line, column⟩ := numbers before rest whole short
      rw [same, List.nil_append, BuildError.lexAt, line, column]

example : tokenize "a:=1;é\n  @" = .error (.lex .missingGlobalName 10 2 3) := by decide +kernel

end Lexer

end ThreeAddress
