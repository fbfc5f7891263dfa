import ThreeAddress.Proofs.FirstDefect
import ThreeAddress.Proofs.Renumbering

/-!
Texts one below the other. A text that is scanned without error gives the same tokens when a line
break and another text follow it, and the tokens of the other text follow those, further down. So
blank and comment lines between the two texts change where things stand and nothing else: the same
program is assembled, or the same error is reported further down.
-/

namespace ThreeAddress

namespace Text

/-- A line that is blank or has only a comment on it. -/
def Vacant (line : String) : Prop :=
  '\n' ∉ line.toList ∧
    (trimStart line.toList = [] ∨ (trimStart line.toList).head? = some ';')

instance (line : String) : Decidable (Vacant line) := inferInstanceAs (Decidable (_ ∧ _))

def unlines (lines : List String) : String := String.join (lines.map (· ++ "\n"))

/-- The number of a line when more lines are put in behind the line `kept`. -/
def movedLine (kept added line : Nat) : Nat := if line ≤ kept then line else line + added

theorem gap_of_blanks {blanks : List Char} (white : ∀ c ∈ blanks, isBlank c = true) :
    Gap blanks := by
  induction blanks with
  | nil => exact .nil
  | cons c blanks induction =>
      rw [List.forall_mem_cons] at white
      exact .blank white.1 (induction white.2)

theorem Vacant.ending {line : String} (vacant : Vacant line) : Ending line.toList := by
  obtain ⟨unbroken, comment⟩ := vacant
  have blanks : Gap (line.toList.takeWhile isBlank) :=
    gap_of_blanks fun c member => List.mem_takeWhile_imp member
  rw [trimStart] at comment
  rw [← line.toList.takeWhile_append_dropWhile (p := isBlank)] at unbroken ⊢
  generalize line.toList.dropWhile isBlank = rest at comment unbroken ⊢
  rcases comment with rfl | found
  · rw [List.append_nil]
    exact .gap blanks
  · obtain ⟨words, rfl⟩ := List.head?_eq_some_iff.1 found
    rw [List.mem_append, List.mem_cons, not_or, not_or] at unbroken
    exact .comment blanks unbroken.2.2

/-- A line break closes the comment that may stand at the end. -/
theorem Ending.append_break {text : List Char} (ending : Ending text) : Gap (text ++ ['\n']) := by
  cases ending with
  | gap spaced => exact spaced.append (.blank rfl .nil)
  | comment spaced inside =>
      rw [List.append_assoc]
      exact spaced.append (.comment inside .nil)

theorem unlines_cons (line : String) (lines : List String) :
    unlines (line :: lines) = line ++ "\n" ++ unlines lines := by
  apply String.toList_injective
  simp [unlines]

theorem count_breaks_unlines {lines : List String} (vacant : ∀ line ∈ lines, Vacant line) :
    (unlines lines).toList.count '\n' = lines.length := by
  induction lines with
  | nil => rfl
  | cons line lines induction =>
      rw [List.forall_mem_cons] at vacant
      have unbroken : line.toList.count '\n' = 0 := List.count_eq_zero.2 vacant.1.1
      simp [unlines_cons, unbroken, induction vacant.2]

theorem count_breaks_between {lines : List String} (vacant : ∀ line ∈ lines, Vacant line)
    (first second : String) :
    (first ++ "\n" ++ (unlines lines ++ second)).toList.count '\n' =
      first.toList.count '\n' + 1 + lines.length + second.toList.count '\n' := by
  simp [count_breaks_unlines vacant]
  omega

end Text

namespace TokenKind

/-- A token at the end of a text stays written when a blank follows. -/
theorem Written.before_blank {kind : TokenKind} {lexeme rest : List Char}
    (written : kind.Written lexeme []) (separated : Lexeme.Separated rest) :
    kind.Written lexeme rest := by
  have word : Text.Ends Text.isIdentifierPart rest :=
    Lexeme.ends_of_separated separated fun c => Text.blank_not_part
  have noColon : rest.head? ≠ some ':' := Lexeme.head_ne_of_separated separated (by decide)
  have noEquals : rest.head? ≠ some '=' := Lexeme.head_ne_of_separated separated (by decide)
  cases written with
  | identifier valid free => exact .identifier valid free word fun colon => absurd colon noColon
  | globalRef valid => exact .globalRef valid word
  | label valid free => exact .label valid free noEquals
  | number nonempty decimal ends same =>
      have digits := Lexeme.ends_of_separated separated fun c => Text.blank_not_digit
      exact .number nonempty decimal digits same
  | string closed => exact .string closed
  | assign => exact .assign
  | operator op => exact .operator op fun short => noEquals
  | keyword => exact .keyword word

theorem Written.append_break {kind : TokenKind} {lexeme after : List Char}
    (written : kind.Written lexeme after) (rest : List Char) :
    kind.Written lexeme (after ++ '\n' :: rest) := by
  cases after with
  | nil =>
      apply written.before_blank
      intro c found
      cases found
      rfl
  | cons c after =>
      apply written.with_after
      · intro d found
        exact found
      · intro colon assign
        cases after with
        | nil => cases assign
        | cons d after => exact assign

end TokenKind

namespace Laid

/-- A text without error is scanned as before when a line break follows it, and scanning goes on
behind the break. -/
theorem drain_append_break {before text : List Char} {tokens : List Token}
    {failure : Option BuildError} (laid : Laid before text tokens failure)
    (complete : failure = none) (rest : List Char) :
    Cursor.drain ⟨.after before, text ++ '\n' :: rest⟩ =
      (tokens ++ (Cursor.drain ⟨(Place.after before).past (text ++ ['\n']), rest⟩).1,
        (Cursor.drain ⟨(Place.after before).past (text ++ ['\n']), rest⟩).2) := by
  -- A break ends every token in front of it, and it closes a comment that was open to the end.
  induction laid with
  | @finished before text ending =>
      have skipped := Cursor.skip_gap ending.append_break (.after before) rest
      rw [List.append_assoc, List.singleton_append] at skipped
      refine Cursor.drain_congr ?_
      simp only [Cursor.scan, Cursor.skipTrivia, skipped]
  | failed spaced solid refused => cases complete
  | @token before gap lexeme after kind tokens failure spaced written later induction =>
      have scanned := @Cursor.scan_written before _ _ _ _ spaced (written.append_break rest)
      rw [List.append_assoc, List.append_assoc, Cursor.drain_of_token scanned, induction complete]
      simp only [Place.past_after, List.append_assoc, List.cons_append]

theorem of_text (text : List Char) :
    Laid [] text (Cursor.ofText text).drain.1 (Cursor.ofText text).drain.2 := of_drain [] text

theorem end_bound {text : List Char} {tokens : List Token} {failure : Option BuildError}
    (laid : Laid [] text tokens failure) {token : Token} (member : token ∈ tokens) :
    token.line + token.kind.breaks ≤ 1 + text.count '\n' := by
  obtain ⟨before, lexeme, after, whole, written, span, -⟩ := laid.stands member
  rw [List.nil_append] at whole
  have line := Place.line_after_le before
  rw [Text.lineBehind] at line
  rw [whole, List.count_append, List.count_append, written.breaks_eq, Token.line, span]
  change (Place.after before).line.toNat + _ ≤ _
  omega

end Laid

theorem Text.line_below_line_below (lines moreLines number : Nat) :
    lineBelow moreLines (lineBelow lines number) = lineBelow (moreLines + lines) number := by
  rw [lineBelow, lineBelow, lineBelow, Nat.mod_add_mod, Nat.add_assoc, Nat.add_comm lines]

theorem Token.shift_shift (bytes lines moreBytes moreLines : Nat) (token : Token) :
    (token.shift bytes lines).shift moreBytes moreLines =
      token.shift (moreBytes + bytes) (moreLines + lines) := by
  simp only [shift, Text.line_below_line_below, Nat.add_assoc, Nat.add_comm bytes]

theorem BuildError.shift_shift (bytes lines moreBytes moreLines : Nat) (error : BuildError) :
    (error.shift bytes lines).shift moreBytes moreLines =
      error.shift (moreBytes + bytes) (moreLines + lines) := by
  cases error <;>
    simp only [shift, renumber, Text.line_below_line_below, Nat.add_assoc, Nat.add_comm bytes]

theorem Place.past_closed (text : String) :
    (Place.after []).past (text.toList ++ ['\n']) =
      Place.start.shift (text.utf8ByteSize + 1) (text.toList.count '\n' + 1) := by
  rw [Place.past_break, Place.past_after, Place.after, List.nil_append, String.ofList_toList]
  simp only [shift, UInt32.ofNat_toNat, Text.lineBehind, Nat.add_comm 1]

theorem laid_of_tokenize {text : String} {tokens : List Token}
    (scanned : tokenize text = .ok tokens) : Laid [] text.toList tokens none := by
  have laid := Laid.of_text text.toList
  rw [tokenize_eq_ok_iff] at scanned
  rw [scanned] at laid
  exact laid

theorem laid_of_tokenize_error {text : String} {error : BuildError}
    (failed : tokenize text = .error error) :
    ∃ tokens, Laid [] text.toList tokens (some error) := by
  have laid := Laid.of_text text.toList
  unfold tokenize at failed
  split at failed
  · cases failed
  · rename_i tokens other drained
    cases failed
    rw [drained] at laid
    exact ⟨tokens, laid⟩

theorem tokenize_append_break {first : String} {tokens : List Token}
    (scanned : tokenize first = .ok tokens) (second : String) :
    tokenize (first ++ "\n" ++ second) =
      ((tokenize second).map fun later => tokens ++ later.map
        (Token.shift (first.utf8ByteSize + 1) (first.toList.count '\n' + 1))).mapError
          (BuildError.shift (first.utf8ByteSize + 1) (first.toList.count '\n' + 1)) := by
  have text : (first ++ "\n" ++ second).toList = first.toList ++ '\n' :: second.toList := by
    simp
  have below : ⟨(Place.after []).past (first.toList ++ ['\n']), second.toList⟩ =
      (Cursor.ofText second.toList).shift (first.utf8ByteSize + 1)
        (first.toList.count '\n' + 1) := by
    rw [Place.past_closed]
    rfl
  have drained := (laid_of_tokenize scanned).drain_append_break rfl second.toList
  rw [below, Cursor.drain_shift, ← text] at drained
  have whole : (Cursor.ofText (first ++ "\n" ++ second).toList).drain = _ := drained
  rw [tokenize, tokenize, whole]
  cases (Cursor.ofText second.toList).drain with
  | mk later failure => cases failure <;> rfl

theorem tokenize_vacant {line : String} (vacant : Text.Vacant line) : tokenize line = .ok [] := by
  rw [tokenize_eq_ok_iff]
  exact Cursor.drain_of_finished (Cursor.scan_ending vacant.ending .start)

theorem tokenize_shift_zero (text : String) :
    tokenize text = ((tokenize text).map (List.map (Token.shift 0 0))).mapError
      (BuildError.shift 0 0) := by
  have same : (Cursor.ofText text.toList).shift 0 0 = .ofText text.toList := by
    simp [Cursor.shift, Cursor.ofText, Place.shift]
  have drained := Cursor.drain_shift 0 0 (.ofText text.toList)
  rw [same] at drained
  rw [tokenize]
  conv_lhs => rw [drained]
  cases (Cursor.ofText text.toList).drain with
  | mk tokens failure => cases failure <;> rfl

/-- Vacant lines only move the text behind them further down. -/
theorem tokenize_unlines_append {lines : List String} (vacant : ∀ line ∈ lines, Text.Vacant line)
    (text : String) :
    tokenize (Text.unlines lines ++ text) =
      ((tokenize text).map (List.map
        (Token.shift (Text.unlines lines).utf8ByteSize lines.length))).mapError
          (BuildError.shift (Text.unlines lines).utf8ByteSize lines.length) := by
  induction lines with
  | nil =>
      have same : Text.unlines [] ++ text = text := by simp [Text.unlines]
      rw [same]
      exact tokenize_shift_zero text
  | cons line lines induction =>
      rw [List.forall_mem_cons] at vacant
      have unbroken : line.toList.count '\n' = 0 := List.count_eq_zero.2 vacant.1.1
      have size : (Text.unlines (line :: lines)).utf8ByteSize =
          line.utf8ByteSize + 1 + (Text.unlines lines).utf8ByteSize := by
        rw [Text.unlines_cons, String.utf8ByteSize_append, String.utf8ByteSize_append]
        rfl
      rw [size, List.length_cons, Nat.add_comm lines.length, Text.unlines_cons, String.append_assoc,
        tokenize_append_break (tokenize_vacant vacant.1), induction vacant.2, unbroken]
      cases tokenize text with
      | error error =>
          exact congrArg Except.error (BuildError.shift_shift ..)
      | ok tokens =>
          apply congrArg Except.ok
          dsimp only
          rw [List.nil_append, List.map_map]
          apply List.map_congr_left
          intro token member
          exact Token.shift_shift ..

def Token.moved (kept bytes added : Nat) (token : Token) : Token :=
  if token.line ≤ kept then token else token.shift bytes added

theorem Text.moved_line_injective (kept added : Nat) :
    (movedLine kept added).Injective := by
  intro left right same
  simp only [movedLine] at same
  split at same <;> split at same <;> omega

namespace Token

variable {kept bytes moreBytes added : Nat} {above below : List Token}

theorem map_moved (higher : ∀ token ∈ above, token.line ≤ kept)
    (lower : ∀ token ∈ below, 1 ≤ token.line)
    (bounded : ∀ token ∈ below, token.line + token.kind.breaks + kept ≤ lastLine) :
    (above ++ below.map (shift bytes kept)).map (moved kept moreBytes added) =
      above ++ (below.map (shift moreBytes added)).map (shift bytes kept) := by
  have stays : above.map (moved kept moreBytes added) = above := by
    rw [List.map_congr_left, List.map_id]
    intro token member
    exact if_pos (higher token member)
  rw [List.map_append, stays, List.map_map, List.map_map]
  congr 1
  apply List.map_congr_left
  intro token member
  have line := @line_shift bytes kept token (bounded token member)
  have deep := lower token member
  -- The lines of the lower text are counted from one, so all of it is behind the line `kept`.
  change moved kept moreBytes added (token.shift bytes kept) = _
  rw [moved, if_neg (by omega)]
  simp only [Function.comp, shift_shift, Nat.add_comm]

theorem renumbers_moved (higher : ∀ token ∈ above, token.line + token.kind.breaks ≤ kept)
    (lower : ∀ token ∈ below, 1 ≤ token.line)
    (bounded : ∀ token ∈ below, token.line + token.kind.breaks + kept + added ≤ lastLine)
    (last : kept ≤ lastLine) :
    Renumbers (Text.movedLine kept added) (moved kept moreBytes added)
      (above ++ below.map (shift bytes kept)) := by
  have numbers : ∀ token ∈ above ++ below.map (shift bytes kept),
      (moved kept moreBytes added token).line = Text.movedLine kept added token.line ∧
        (moved kept moreBytes added token).endLine = Text.movedLine kept added token.endLine := by
    intro token member
    rw [moved, Text.movedLine, Text.movedLine]
    rcases List.mem_append.1 member with inside | inside
    · have bound := higher token inside
      have ended := @end_line_eq token (by omega)
      rw [if_pos (by omega), if_pos (by omega), if_pos (by omega)]
      exact ⟨rfl, rfl⟩
    · obtain ⟨original, found, rfl⟩ := List.mem_map.1 inside
      have deep := lower original found
      have bound := bounded original found
      have line := @line_shift bytes kept original (by omega)
      have kind : (original.shift bytes kept).kind = original.kind := rfl
      have further : (original.shift bytes kept).line + (original.shift bytes kept).kind.breaks +
          added ≤ lastLine := by
        rw [line, kind]
        omega
      have ended := @end_line_eq (original.shift bytes kept) (by omega)
      rw [if_neg (by omega), if_neg (by omega), if_neg (by omega)]
      exact ⟨line_shift further, end_line_shift further⟩
  refine ⟨Text.moved_line_injective kept added, ?_, fun token member => (numbers token member).1,
    fun token member => (numbers token member).2⟩
  intro token member
  rw [moved]
  split <;> rfl

end Token

theorem BuildError.renumber_shift {text : String} {error : BuildError}
    (failed : tokenize text = .error error) (bytes moreBytes : Nat) {kept added : Nat}
    (numbered : text.toList.count '\n' + kept + added < Token.lastLine) :
    (error.shift bytes kept).renumber moreBytes (Text.movedLine kept added) =
      (error.shift moreBytes added).shift bytes kept := by
  obtain ⟨tokens, laid⟩ := laid_of_tokenize_error failed
  have line := laid.line_bounds.2 error rfl
  have positive := line.positive (by omega)
  have upper := line.upper
  obtain ⟨before, rest, problem, -, -, -, rfl⟩ := laid.cut rfl
  rw [lexAt, BuildError.line] at positive upper
  rw [shift_shift, lexAt]
  simp only [shift, renumber, Nat.add_assoc]
  rw [Text.line_below_eq (by omega), Text.line_below_eq (by omega), Text.movedLine,
    if_neg (by omega), Nat.add_assoc]

theorem Program.of_source_vacant_lines {first : String} {tokens : List Token}
    (scanned : tokenize first = .ok tokens) {lines : List String}
    (vacant : ∀ line ∈ lines, Text.Vacant line) {second : String}
    (numbered : (first ++ "\n" ++ (Text.unlines lines ++ second)).toList.count '\n' <
      Token.lastLine) (externals : List String) :
    ofSource externals (first ++ "\n" ++ (Text.unlines lines ++ second)) =
      (ofSource externals (first ++ "\n" ++ second)).mapError
        (BuildError.renumber (Text.unlines lines).utf8ByteSize
          (Text.movedLine (first.toList.count '\n' + 1) lines.length)) := by
  rw [ofSource, ofSource, tokenize_append_break scanned, tokenize_append_break scanned,
    tokenize_unlines_append vacant]
  have breaks := Text.count_breaks_between vacant first second
  cases read : tokenize second with
  | error error =>
      exact congrArg Except.error (BuildError.renumber_shift read _ _ (by omega)).symm
  | ok later =>
      have higher : ∀ token ∈ tokens,
          token.line + token.kind.breaks ≤ first.toList.count '\n' + 1 := by
        intro token member
        have bound := (laid_of_tokenize scanned).end_bound member
        omega
      have lower : ∀ token ∈ later, 1 ≤ token.line := by
        intro token member
        exact ((laid_of_tokenize read).line_bounds.1 token member).positive (by omega)
      have bounded : ∀ token ∈ later, token.line + token.kind.breaks +
          (first.toList.count '\n' + 1) + lines.length ≤ Token.lastLine := by
        intro token member
        have bound := (laid_of_tokenize read).end_bound member
        omega
      change ofTokens externals (tokens ++ _) = _
      have starts : ∀ token ∈ tokens, token.line ≤ first.toList.count '\n' + 1 := by
        intro token member
        exact Nat.le_of_add_right_le (higher token member)
      have ends : ∀ token ∈ later, token.line + token.kind.breaks +
          (first.toList.count '\n' + 1) ≤ Token.lastLine := by
        intro token member
        exact Nat.le_of_add_right_le (bounded token member)
      rw [← Token.map_moved starts lower ends]
      exact Program.of_tokens_renumber _ (Token.renumbers_moved higher lower bounded (by omega))
        externals

/-- A text without lexical errors and a text below it are scanned each for itself: the tokens of the
lower one, or its error, are only moved down by the bytes and lines above them, where line numbers
begin again at zero when they are used up. And vacant lines between the two change neither the
program they are assembled to nor the error, but for its place: what is reported of a line of the
lower text is reported as many lines further down. -/
theorem scanning_composes_over_lines {first : String} {tokens : List Token}
    (scanned : tokenize first = .ok tokens) (second : String) :
    tokenize (first ++ "\n" ++ second) =
      ((tokenize second).map fun later => tokens ++ later.map
        (Token.shift (first.utf8ByteSize + 1) (first.toList.count '\n' + 1))).mapError
          (BuildError.shift (first.utf8ByteSize + 1) (first.toList.count '\n' + 1)) ∧
    ∀ externals lines : List String, (∀ line ∈ lines, Text.Vacant line) →
      (first ++ "\n" ++ (Text.unlines lines ++ second)).toList.count '\n' < Token.lastLine →
      Program.ofSource externals (first ++ "\n" ++ (Text.unlines lines ++ second)) =
        (Program.ofSource externals (first ++ "\n" ++ second)).mapError
          (BuildError.renumber (Text.unlines lines).utf8ByteSize
            (Text.movedLine (first.toList.count '\n' + 1) lines.length)) := by
  refine ⟨tokenize_append_break scanned second, ?_⟩
  intro externals lines vacant numbered
  exact Program.of_source_vacant_lines scanned vacant numbered externals

/-- The text ends in a comment with a quote in it, and a string in it reaches over a line break. -/
def quotingText : String := "f: x := 'p\nq' ; isn't"

def quotingTokens : List Token :=
  [⟨.label "f", ⟨0, 2, 1, 1⟩⟩, ⟨.identifier "x", ⟨3, 4, 1, 4⟩⟩, ⟨.assign, ⟨5, 7, 1, 6⟩⟩,
    ⟨.string "p\nq", ⟨8, 13, 1, 9⟩⟩]

def labelledReturn : List Token :=
  [⟨.label "f", ⟨22, 24, 3, 1⟩⟩, ⟨.keyword .ret, ⟨25, 28, 3, 4⟩⟩, ⟨.identifier "x", ⟨29, 30, 3, 8⟩⟩]

theorem duplicate_label_below_vacant_lines :
    tokenize quotingText = .ok quotingTokens ∧
    tokenize (quotingText ++ "\n" ++ "f: ret x") = .ok (quotingTokens ++ labelledReturn) ∧
    Program.ofSource [] (quotingText ++ "\n" ++ "f: ret x") = .error (.duplicateLabel "f" 3 1) ∧
    Program.ofSource []
      (quotingText ++ "\n" ++ (Text.unlines ["", " \t; don't", "\u2028"] ++ "f: ret x")) =
        .error (.duplicateLabel "f" 6 1) := by
  have scanned : tokenize quotingText = .ok quotingTokens := by decide +kernel
  have below : tokenize "f: ret x" = .ok [⟨.label "f", ⟨0, 2, 1, 1⟩⟩,
      ⟨.keyword .ret, ⟨3, 6, 1, 4⟩⟩, ⟨.identifier "x", ⟨7, 8, 1, 8⟩⟩] := by decide +kernel
  have refused : Program.ofSource [] (quotingText ++ "\n" ++ "f: ret x") =
      .error (.duplicateLabel "f" 3 1) := by decide +kernel
  obtain ⟨whole, moves⟩ := scanning_composes_over_lines scanned "f: ret x"
  refine ⟨scanned, ?_, refused, ?_⟩
  · rw [whole, below]
    decide +kernel
  · rw [moves [] ["", " \t; don't", "\u2028"] (by decide +kernel) (by decide +kernel), refused]
    rfl

end ThreeAddress
