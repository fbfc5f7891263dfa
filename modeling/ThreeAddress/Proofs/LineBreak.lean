import ThreeAddress.Proofs.Grammar
import ThreeAddress.Proofs.Layout

/-!
Scanning across a line break. No token but a string reaches over the end of a line, and a text that
is scanned without error leaves no string open. So a text that ends with a line break is scanned in
the same way whatever follows it, and further down in a larger text it gives the same tokens on
later lines.
-/

namespace ThreeAddress

theorem TokenKind.Written.ne_concat_break {kind : TokenKind} {lexeme after : List Char}
    (written : kind.Written lexeme after) (before : List Char) : lexeme ≠ before ++ ['\n'] := by
  rintro rfl
  have breaks := written.breaks_eq
  rw [List.count_append] at breaks
  cases kind with
  | string contents =>
      generalize whole : before ++ ['\n'] = lexeme at written
      cases written
      rw [← List.cons_append] at whole
      have last := (List.append_inj' whole rfl).2
      cases last
  | _ => simp [TokenKind.breaks] at breaks

namespace Lexeme

/-- A token in front of a line break is recognized whatever follows the break, and all of it stands
in front of the break. -/
theorem read_break {first : Char} {more : List Char} {kind : TokenKind} {length : Nat}
    (token : read first (more ++ ['\n']) = .token kind length) :
    length ≤ more.length + 1 ∧ kind.breaks ≤ ((first :: more).take length).count '\n' ∧
      ∀ rest, read first (more ++ '\n' :: rest) = .token kind length := by
  obtain ⟨lexeme, after, whole, taken, written⟩ := fronts_of_read token
  rcases List.eq_nil_or_concat' after with rfl | ⟨kept, last, rfl⟩
  · rw [List.append_nil] at whole
    exact absurd whole.symm (written.ne_concat_break (first :: more))
  · rw [← List.cons_append, ← List.append_assoc] at whole
    obtain ⟨inside, broken⟩ := List.append_inj' whole rfl
    cases broken
    refine ⟨?_, ?_, ?_⟩
    · rw [← taken, ← List.length_cons, inside, List.length_append]
      omega
    · rw [← taken, inside, List.take_left, written.breaks_eq]
    · intro rest
      -- Of what follows the token at most two characters are looked at, and no more than the break.
      have same : kind.Written lexeme (kept ++ '\n' :: rest) := by
        apply written.with_after
        · intro c found
          cases kept <;> exact found
        · intro colon assign
          match kept with
          | [] => cases colon
          | [c] => cases assign
          | c :: d :: kept => exact assign
      obtain ⟨other, others, text, read⟩ := read_of_written same
      rw [← List.append_assoc, ← inside] at text
      cases text
      rw [← taken]
      exact read

end Lexeme

namespace Cursor

/-- Either everything up to the break is blank or comment, or what is skipped ends in front of the
break. -/
theorem skip_trivia_break (inComment : Bool) (place : Place) (text : List Char) :
    (∀ rest, skipTriviaFrom inComment place (text ++ '\n' :: rest) =
      skipTriviaFrom false (place.past (text ++ ['\n'])) rest) ∨
    ∃ used first more, text = used ++ first :: more ∧
      ∀ rest, skipTriviaFrom inComment place (text ++ '\n' :: rest) =
        ⟨place.past used, first :: (more ++ '\n' :: rest)⟩ := by
  induction text generalizing inComment place with
  | nil =>
      left
      intro rest
      cases inComment <;> rfl
  | cons c text induction =>
      have onward : ∀ next, (∀ rest, skipTriviaFrom inComment place (c :: (text ++ '\n' :: rest)) =
          skipTriviaFrom next (place.advance c) (text ++ '\n' :: rest)) →
          (∀ rest, skipTriviaFrom inComment place (c :: text ++ '\n' :: rest) =
            skipTriviaFrom false (place.past (c :: text ++ ['\n'])) rest) ∨
          ∃ used first more, c :: text = used ++ first :: more ∧
            ∀ rest, skipTriviaFrom inComment place (c :: text ++ '\n' :: rest) =
              ⟨place.past used, first :: (more ++ '\n' :: rest)⟩ := by
        intro next skips
        rcases induction next (place.advance c) with all | ⟨used, first, more, rfl, stops⟩
        · exact .inl fun rest => (skips rest).trans (all rest)
        · exact .inr ⟨c :: used, first, more, rfl, fun rest => (skips rest).trans (stops rest)⟩
      cases inComment with
      | true =>
          apply onward (c != '\n')
          intro rest
          rw [skipTriviaFrom, if_pos rfl]
      | false =>
          by_cases blank : Text.isBlank c = true
          · apply onward false
            intro rest
            rw [skipTriviaFrom, if_neg (by decide), if_pos blank]
          · by_cases comment : (c == ';') = true
            · apply onward true
              intro rest
              rw [skipTriviaFrom, if_neg (by decide), if_neg blank, if_pos comment]
            · right
              refine ⟨[], c, text, rfl, ?_⟩
              intro rest
              rw [List.cons_append, skipTriviaFrom, if_neg (by decide), if_neg blank,
                if_neg comment]
              rfl

theorem scan_of_stop {place : Place} {text : List Char} {stop : Place} {first : Char}
    {rest : List Char} (skipped : skipTriviaFrom false place text = ⟨stop, first :: rest⟩)
    {kind : TokenKind} {length : Nat} (recognized : Lexeme.read first rest = .token kind length) :
    scan ⟨place, text⟩ =
      .token ⟨kind, stop.offset, (stop.past ((first :: rest).take length)).offset,
          stop.line.toNat, stop.column.toNat⟩
        ⟨stop.past ((first :: rest).take length), (first :: rest).drop length⟩ := by
  simp only [scan, skipTrivia, skipped, recognized, skip]

/-- What stands first in a text that ends with a line break: nothing, an error, or a token that
stands there whatever follows the break. -/
theorem scan_break (place : Place) (text : List Char) :
    (∀ rest, scan ⟨place, text ++ '\n' :: rest⟩ = scan ⟨place.past (text ++ ['\n']), rest⟩) ∨
    (∃ error after, scan ⟨place, text ++ ['\n']⟩ = .failure error after) ∨
    ∃ token used more, text = used ++ more ∧ used ≠ [] ∧
      (place.Fits used → place.line.toNat ≤ token.line ∧
        token.line + token.kind.breaks ≤ (place.past used).line.toNat) ∧
      ∀ rest, scan ⟨place, text ++ '\n' :: rest⟩ =
        .token token ⟨place.past used, more ++ '\n' :: rest⟩ := by
  rcases skip_trivia_break false place text with all | ⟨used, first, more, rfl, stops⟩
  · left
    intro rest
    simp only [scan, skipTrivia, all rest]
  · right
    cases recognized : Lexeme.read first (more ++ ['\n']) with
    | failure problem length =>
        left
        simp only [scan, skipTrivia, stops [], recognized]
        exact ⟨_, _, rfl⟩
    | token kind length =>
        right
        obtain ⟨inside, breaks, same⟩ := Lexeme.read_break recognized
        have taken : ∀ rest, (first :: (more ++ '\n' :: rest)).take length =
            (first :: more).take length := by
          intro rest
          rw [← List.cons_append, List.take_append_of_le_length inside]
        have dropped : ∀ rest, (first :: (more ++ '\n' :: rest)).drop length =
            (first :: more).drop length ++ '\n' :: rest := by
          intro rest
          rw [← List.cons_append, List.drop_append_of_le_length inside]
        refine ⟨⟨kind, (place.past used).offset,
            ((place.past used).past ((first :: more).take length)).offset,
            (place.past used).line.toNat, (place.past used).column.toNat⟩,
          used ++ (first :: more).take length, (first :: more).drop length, ?_, ?_, ?_, ?_⟩
        · rw [List.append_assoc, List.take_append_drop]
        · have positive := Lexeme.read_length_pos recognized
          intro empty
          have none := (List.append_eq_nil_iff.1 empty).2
          rw [List.take_eq_nil_iff] at none
          rcases none with zero | nothing
          · omega
          · cases nothing
        · intro fits
          obtain ⟨skipped, lexeme⟩ := Place.fits_append_iff.1 fits
          have start := skipped.line
          have stop := lexeme.line
          rw [Place.past_append]
          change place.line.toNat ≤ (place.past used).line.toNat ∧
            (place.past used).line.toNat + kind.breaks ≤ _
          omega
        · intro rest
          rw [scan_of_stop (stops rest) (same rest), taken, dropped, Place.past_append]

theorem drain_break {place : Place} {text : List Char}
    (clean : (drain ⟨place, text ++ ['\n']⟩).2 = none) (fits : place.Fits text) :
    ∃ tokens, (∀ token ∈ tokens, place.line.toNat ≤ token.line ∧
        token.line + token.kind.breaks ≤ (place.past text).line.toNat) ∧
      ∀ rest, drain ⟨place, text ++ '\n' :: rest⟩ =
        (tokens ++ (drain ⟨place.past (text ++ ['\n']), rest⟩).1,
          (drain ⟨place.past (text ++ ['\n']), rest⟩).2) := by
  induction long : text.length using Nat.strong_induction_on generalizing place text with
  | _ size induction =>
      rcases scan_break place text with all | ⟨error, after, failed⟩ |
        ⟨token, used, more, rfl, nonempty, numbered, scanned⟩
      · refine ⟨[], by simp, fun rest => ?_⟩
        rw [drain_congr (all rest)]
        rfl
      · rw [drain_of_failure failed] at clean
        cases clean
      · rw [drain_of_token (scanned [])] at clean
        have shorter : more.length < size := by
          have positive := List.length_pos_of_ne_nil nonempty
          rw [List.length_append] at long
          omega
        obtain ⟨here, there⟩ := Place.fits_append_iff.1 fits
        obtain ⟨above, below⟩ := numbered here
        obtain ⟨tokens, within, drained⟩ := induction _ shorter clean there rfl
        have middle := here.line
        have last := there.line
        rw [Place.past_append]
        refine ⟨token :: tokens, ?_, fun rest => ?_⟩
        · intro other member
          rcases List.mem_cons.1 member with rfl | later
          · omega
          · have bounds := within other later
            omega
        · rw [drain_of_token (scanned rest), drained rest, List.append_assoc,
            Place.past_append place used]
          rfl

/-- A text that is closed by a line break gives its own tokens whatever stands below it. -/
theorem drain_closed {place : Place} {text : List Char} {tokens : List Token}
    (scanned : drain ⟨place, text ++ ['\n']⟩ = (tokens, none)) (fits : place.Fits text) :
    (∀ token ∈ tokens, place.line.toNat ≤ token.line ∧
        token.line + token.kind.breaks ≤ (place.past text).line.toNat) ∧
      ∀ rest, drain ⟨place, text ++ '\n' :: rest⟩ =
        (tokens ++ (drain ⟨place.past (text ++ ['\n']), rest⟩).1,
          (drain ⟨place.past (text ++ ['\n']), rest⟩).2) := by
  obtain ⟨own, within, drained⟩ := drain_break (congrArg Prod.snd scanned) fits
  have nothing : ∀ place, drain ⟨place, []⟩ = ([], none) := fun place => drain_of_finished rfl
  have alone := drained []
  rw [nothing, List.append_nil, scanned] at alone
  cases alone
  exact ⟨within, drained⟩

end Cursor

def Place.shift (bytes lines : Nat) (place : Place) : Place :=
  ⟨place.offset + bytes, place.line + .ofNat lines, place.column⟩

def Cursor.shift (bytes lines : Nat) (cursor : Cursor) : Cursor :=
  ⟨cursor.place.shift bytes lines, cursor.rest⟩

/-- The number of a line that stands further down in a larger text. Behind the last number comes
zero. -/
def Text.lineBelow (lines number : Nat) : Nat := (number + lines) % (Token.lastLine + 1)

/-- The token when it stands further down in a larger text. -/
def Token.shift (bytes lines : Nat) (token : Token) : Token :=
  ⟨token.kind, token.span.start + bytes, token.span.stop + bytes,
    Text.lineBelow lines token.span.line, token.span.column⟩

/-- The error when the text before it grows by some bytes and its lines are numbered anew. -/
def BuildError.renumber (bytes : Nat) (number : Nat → Nat) : BuildError → BuildError
  | .lex problem offset line column => .lex problem (offset + bytes) (number line) column
  | .malformed problem line => .malformed problem (number line)
  | .duplicateLabel name line firstLine => .duplicateLabel name (number line) (number firstLine)
  | .unresolvedReference name line => .unresolvedReference name (number line)

def BuildError.shift (bytes lines : Nat) : BuildError → BuildError :=
  renumber bytes (Text.lineBelow lines)

def Scan.shift (bytes lines : Nat) : Scan → Scan
  | .finished after => .finished (after.shift bytes lines)
  | .token found after => .token (found.shift bytes lines) (after.shift bytes lines)
  | .failure error after => .failure (error.shift bytes lines) (after.shift bytes lines)

theorem Place.line_shift (bytes lines : Nat) (place : Place) :
    (place.shift bytes lines).line.toNat = Text.lineBelow lines place.line.toNat := by
  rw [shift, UInt32.toNat_add, UInt32.toNat_ofNat', Nat.add_mod_mod]
  rfl

theorem Place.shift_advance (bytes lines : Nat) (place : Place) (c : Char) :
    (place.shift bytes lines).advance c = (place.advance c).shift bytes lines := by
  by_cases broken : c = '\n'
  · simp only [advance, shift, broken, if_true, Place.mk.injEq, and_true]
    refine ⟨Nat.add_right_comm .., ?_⟩
    ac_rfl
  · simp only [advance, shift, broken, if_false, Place.mk.injEq, and_true]
    exact Nat.add_right_comm ..

theorem Place.past_break (place : Place) (text : List Char) :
    place.past (text ++ ['\n']) =
      Place.start.shift ((place.past text).offset + 1) (place.past text).line.toNat := by
  rw [past_append]
  change Place.advance _ '\n' = _
  simp only [advance, if_true, start, shift, Place.mk.injEq, and_true, UInt32.ofNat_toNat]
  exact ⟨(Nat.zero_add _).symm, UInt32.add_comm ..⟩

theorem Place.shift_past (bytes lines : Nat) (place : Place) (characters : List Char) :
    (place.shift bytes lines).past characters = (place.past characters).shift bytes lines := by
  induction characters generalizing place with
  | nil => rfl
  | cons c characters induction => rw [past_cons, shift_advance, induction, past_cons]

namespace Cursor

theorem skip_trivia_shift (bytes lines : Nat) (inComment : Bool) (place : Place)
    (text : List Char) :
    skipTriviaFrom inComment (place.shift bytes lines) text =
      (skipTriviaFrom inComment place text).shift bytes lines := by
  induction text generalizing inComment place with
  | nil => rfl
  | cons c text induction =>
      simp only [skipTriviaFrom, Place.shift_advance, induction]
      split
      · rfl
      · split
        · rfl
        · split <;> rfl

theorem skip_shift (bytes lines : Nat) (cursor : Cursor) (count : Nat) :
    (cursor.shift bytes lines).skip count = (cursor.skip count).shift bytes lines := by
  simp only [skip, shift, Place.shift_past]

theorem scan_shift (bytes lines : Nat) (cursor : Cursor) :
    (cursor.shift bytes lines).scan = cursor.scan.shift bytes lines := by
  have shifted : (cursor.shift bytes lines).skipTrivia = cursor.skipTrivia.shift bytes lines :=
    skip_trivia_shift bytes lines false cursor.place cursor.rest
  have ahead : (cursor.skipTrivia.shift bytes lines).rest = cursor.skipTrivia.rest := rfl
  simp only [scan, shifted, skip_shift, ahead]
  cases cursor.skipTrivia.rest with
  | nil => rfl
  | cons first rest =>
      dsimp only
      cases Lexeme.read first rest with
      | token kind length =>
          simp only [shift, Place.line_shift]
          rfl
      | failure problem length =>
          simp only [shift, Place.line_shift]
          rfl

/-- A text gives the same tokens and the same error further down in a larger text. -/
theorem drain_shift (bytes lines : Nat) (cursor : Cursor) :
    (cursor.shift bytes lines).drain =
      (cursor.drain.1.map (Token.shift bytes lines),
        cursor.drain.2.map (BuildError.shift bytes lines)) := by
  fun_induction drain cursor with
  | case1 cursor after scanned =>
      have shifted := scan_shift bytes lines cursor
      rw [scanned] at shifted
      exact drain_of_finished shifted
  | case2 cursor token after scanned later failure rest induction =>
      have shifted := scan_shift bytes lines cursor
      rw [scanned] at shifted
      rw [drain_of_token shifted, induction, rest]
      rfl
  | case3 cursor error after scanned =>
      have shifted := scan_shift bytes lines cursor
      rw [scanned] at shifted
      exact drain_of_failure shifted

end Cursor

structure Token.Renumbers (number : Nat → Nat) (moved : Token → Token) (tokens : List Token) :
    Prop where
  injective : number.Injective
  kind : ∀ token ∈ tokens, (moved token).kind = token.kind
  line : ∀ token ∈ tokens, (moved token).line = number token.line
  endLine : ∀ token ∈ tokens, (moved token).endLine = number token.endLine

theorem Token.Renumbers.subset {number : Nat → Nat} {moved : Token → Token}
    {tokens others : List Token} (renumbers : Renumbers number moved tokens)
    (inside : others ⊆ tokens) : Renumbers number moved others where
  injective := renumbers.injective
  kind token member := renumbers.kind token (inside member)
  line token member := renumbers.line token (inside member)
  endLine token member := renumbers.endLine token (inside member)

theorem Token.Grouped.renumber {number : Nat → Nat} {moved : Token → Token} {tokens : List Token}
    {groups : List (List Token)} (grouped : Grouped tokens groups)
    (renumbers : Renumbers number moved tokens) :
    Grouped (tokens.map moved) (groups.map (·.map moved)) := by
  have inside : ∀ group ∈ groups, Renumbers number moved group := by
    intro group member
    refine renumbers.subset fun token found => ?_
    rw [← grouped.whole]
    exact List.mem_flatten_of_mem member found
  refine ⟨?_, ?_, ?_, ?_⟩
  · rw [← grouped.whole, List.map_flatten]
  · intro empty
    obtain ⟨group, member, nothing⟩ := List.mem_map.1 empty
    rw [List.map_eq_nil_iff] at nothing
    rw [nothing] at member
    exact grouped.nonempty member
  · intro shifted found
    obtain ⟨group, member, rfl⟩ := List.mem_map.1 found
    rw [List.isChain_map]
    refine (grouped.joined group member).imp_of_mem_imp ?_
    intro left right first second same
    rw [(inside group member).endLine left first, (inside group member).line right second, same]
  · rw [List.isChain_map]
    refine grouped.parted.imp_of_mem_imp ?_
    intro left right first second parted
    obtain ⟨last, ending, next, beginning, different⟩ := parted
    refine ⟨moved last, ?_, moved next, ?_, ?_⟩
    · rw [List.getLast?_map, ending]
      rfl
    · rw [List.head?_map, beginning]
      rfl
    · rw [(inside left first).endLine last (List.mem_of_getLast? ending),
        (inside right second).line next (List.mem_of_head? beginning)]
      exact renumbers.injective.ne different

theorem Text.line_below_eq {lines number : Nat} (bounded : number + lines ≤ Token.lastLine) :
    lineBelow lines number = number + lines := Nat.mod_eq_of_lt (Nat.lt_succ_of_le bounded)

theorem Token.line_shift {bytes lines : Nat} {token : Token}
    (bounded : token.line + token.kind.breaks + lines ≤ lastLine) :
    (token.shift bytes lines).line = token.line + lines :=
  Text.line_below_eq (by rw [Token.line] at bounded; omega)

theorem Token.end_line_shift {bytes lines : Nat} {token : Token}
    (bounded : token.line + token.kind.breaks + lines ≤ lastLine) :
    (token.shift bytes lines).endLine = token.endLine + lines := by
  have line := @line_shift bytes lines token bounded
  have kind : (token.shift bytes lines).kind = token.kind := rfl
  rw [@end_line_eq token (by omega), end_line_eq (by rw [line, kind]; omega), line, kind]
  omega

theorem Token.renumbers_shift {bytes lines : Nat} {tokens : List Token}
    (bounded : ∀ token ∈ tokens, token.line + token.kind.breaks + lines ≤ lastLine) :
    Renumbers (· + lines) (Token.shift bytes lines) tokens where
  injective _ _ same := Nat.add_right_cancel same
  kind _ _ := rfl
  line token member := line_shift (bounded token member)
  endLine token member := end_line_shift (bounded token member)

namespace SourceLine

theorem Reads.shift {bytes lines : Nat} {tokens : List Token} {sources : List SourceLine}
    (reads : Reads tokens sources)
    (bounded : ∀ token ∈ tokens, token.line + token.kind.breaks + lines ≤ Token.lastLine) :
    Reads (tokens.map (Token.shift bytes lines)) sources := by
  obtain ⟨groups, grouped, spelled⟩ := reads
  refine ⟨_, grouped.renumber (Token.renumbers_shift bounded), ?_⟩
  rw [SpelledBy, List.forall₂_map_left_iff]
  refine spelled.imp ?_
  intro group source here
  rw [List.map_map]
  exact here

theorem Reads.append {first second : List Token} {before after : List SourceLine}
    (readsFirst : Reads first before) (readsSecond : Reads second after)
    (apart : ∀ last ∈ first.getLast?, ∀ next ∈ second.head?, last.endLine ≠ next.line) :
    Reads (first ++ second) (before ++ after) := by
  obtain ⟨firstGroups, firstGrouped, firstSpelled⟩ := readsFirst
  obtain ⟨secondGroups, secondGrouped, secondSpelled⟩ := readsSecond
  rw [Token.grouped_iff] at firstGrouped secondGrouped
  refine ⟨firstGroups ++ secondGroups, ?_, List.rel_append firstSpelled secondSpelled⟩
  rw [Token.grouped_iff, Draft.lines_append apart, firstGrouped, secondGrouped]

end SourceLine

end ThreeAddress
