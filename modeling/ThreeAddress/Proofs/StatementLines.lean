import ThreeAddress.Proofs.Meaning
import ThreeAddress.Proofs.Placement

/-!
Where statements end. Tokens are grouped by their line numbers alone, and the numbers of a text's
tokens are such that two neighbours belong to one statement exactly if there is no line break in
the text between them. So the line breaks inside a string do not count, and a comment, which only a
line break closes, always ends the statement before it.
-/

namespace ThreeAddress

/-- Two neighbours in a list of groups stand in one group, or where one group ends and the next one
begins. -/
theorem together_or_parted {α : Type} {groups : List (List α)} {front back : List α} {left right : α}
    (nonempty : [] ∉ groups) (whole : groups.flatten = front ++ left :: right :: back) :
    (∃ group ∈ groups, left ∈ group ∧ right ∈ group) ∨
      ∃ before first second after, groups = before ++ first :: second :: after ∧
        first.getLast? = some left ∧ second.head? = some right := by
  induction groups generalizing front with
  | nil => simp at whole
  | cons group groups induction =>
      rw [List.mem_cons, not_or] at nonempty
      -- Neighbours that both stand behind the first group are neighbours in the others.
      have onward : ∀ rest, groups.flatten = rest ++ left :: right :: back →
          (∃ held ∈ group :: groups, left ∈ held ∧ right ∈ held) ∨
            ∃ before first second after, group :: groups = before ++ first :: second :: after ∧
              first.getLast? = some left ∧ second.head? = some right := by
        intro rest later
        rcases induction nonempty.2 later with ⟨held, member, both⟩ |
          ⟨before, first, second, after, split, ends⟩
        · exact .inl ⟨held, List.mem_cons_of_mem _ member, both⟩
        · exact .inr ⟨group :: before, first, second, after, by rw [split]; rfl, ends⟩
      rw [List.flatten_cons, List.append_eq_append_iff] at whole
      rcases whole with ⟨rest, rfl, later⟩ | ⟨shared, rfl, later⟩
      · exact onward rest later
      · cases shared with
        | nil => exact onward [] later.symm
        | cons first shared =>
            obtain ⟨rfl, beyond⟩ := List.cons.inj later
            cases shared with
            | cons second others =>
                obtain ⟨rfl, -⟩ := List.cons.inj beyond
                exact .inl ⟨_, List.mem_cons_self, by simp, by simp⟩
            | nil =>
                -- The first group ends with the left one, so the next group starts with the right.
                cases groups with
                | nil => cases beyond
                | cons next groups =>
                    cases next with
                    | nil => exact absurd List.mem_cons_self nonempty.2
                    | cons begun others =>
                        obtain ⟨rfl, -⟩ := List.cons.inj beyond
                        exact .inr ⟨[], _, _, groups, rfl, by simp, rfl⟩

/-- Neighbours belong to one group exactly if the second starts on the line where the first ends. -/
theorem Token.Grouped.together_iff {tokens : List Token} {groups : List (List Token)}
    {front back : List Token} {left right : Token} (grouped : Grouped tokens groups)
    (neighbours : tokens = front ++ left :: right :: back) (distinct : tokens.Nodup) :
    (∃ group ∈ groups, left ∈ group ∧ right ∈ group) ↔ left.endLine = right.line := by
  constructor
  · intro together
    obtain ⟨group, member, leftInside, rightInside⟩ := together
    by_contra apart
    have whole : tokens = (front ++ [left]) ++ right :: back := by simp [neighbours]
    have parts : Draft.lines tokens = Draft.lines (front ++ [left]) ++ Draft.lines (right :: back) := by
      rw [whole]
      apply Draft.lines_append
      intro last ends next begins
      rw [List.getLast?_concat] at ends
      cases ends
      cases begins
      exact apart
    rw [whole] at distinct
    have disjoint := (List.nodup_append.1 distinct).2.2
    rw [← grouped_iff.1 grouped, parts, List.mem_append] at member
    rcases member with early | late
    · have inside := List.mem_flatten_of_mem early rightInside
      rw [Draft.lines, List.flatten_splitBy] at inside
      exact disjoint right inside right List.mem_cons_self rfl
    · have inside := List.mem_flatten_of_mem late leftInside
      rw [Draft.lines, List.flatten_splitBy] at inside
      exact disjoint left (List.mem_append_right _ (List.mem_singleton_self left)) left inside rfl
  · intro joined
    have whole := grouped.whole.trans neighbours
    rcases together_or_parted grouped.nonempty whole with together |
      ⟨before, first, second, after, split, ends, begins⟩
    · exact together
    · have parted := grouped.parted
      rw [split, List.isChain_append_cons_cons] at parted
      obtain ⟨last, ended, next, begun, apart⟩ := parted.2.1
      rw [ends] at ended
      rw [begins] at begun
      cases ended
      cases begun
      exact absurd joined apart

/-- A comment in a gap is closed by a line break. -/
theorem Text.Gap.break_of_comment {gap : List Char} (spaced : Gap gap) (comment : ';' ∈ gap) :
    '\n' ∈ gap := by
  induction spaced with
  | nil => cases comment
  | blank white later induction =>
      rcases List.mem_cons.1 comment with rfl | inside
      · cases white
      · exact List.mem_cons_of_mem _ (induction inside)
  | comment inside later induction => simp

namespace Laid

theorem span_nonempty {before rest : List Char} {tokens : List Token} {failure : Option BuildError}
    (laid : Laid before rest tokens failure) {token : Token} (member : token ∈ tokens) :
    token.span.start < token.span.stop := by
  obtain ⟨left, lexeme, right, -, written, span, -⟩ := laid.stands member
  have positive := written.size_pos
  have stop := Place.offset_append left lexeme
  rw [span, Span.behind]
  dsimp only
  omega

theorem distinct {before rest : List Char} {tokens : List Token} {failure : Option BuildError}
    (laid : Laid before rest tokens failure) : tokens.Nodup := by
  refine laid.ordered.imp_of_mem ?_
  intro left right member _ apart same
  have positive := laid.span_nonempty member
  rw [← same] at apart
  omega

theorem neighbours {before rest : List Char} {tokens front back : List Token}
    {failure : Option BuildError} {left right : Token} (laid : Laid before rest tokens failure)
    (whole : tokens = front ++ left :: right :: back) :
    ∃ text lexeme gap other after, before ++ rest = text ++ lexeme ++ (gap ++ (other ++ after)) ∧
      Text.Gap gap ∧ left.kind.Written lexeme (gap ++ (other ++ after)) ∧
      left.span = .behind text lexeme ∧ right.span = .behind (text ++ lexeme ++ gap) other := by
  induction laid generalizing front with
  | finished ending => simp at whole
  | failed spaced solid refused => simp at whole
  | @token before gap lexeme after kind tokens failure spaced written later induction =>
      cases front with
      | nil =>
          obtain ⟨rfl, rfl⟩ := List.cons.inj whole
          cases later with
          | @token _ next other beyond _ _ _ nextSpaced nextWritten last =>
              exact ⟨before ++ gap, lexeme, next, other, beyond, by simp, nextSpaced, written, rfl, rfl⟩
      | cons first front =>
          obtain ⟨-, others⟩ := List.cons.inj whole
          obtain ⟨text, own, next, other, beyond, same, facts⟩ := induction others
          exact ⟨text, own, next, other, beyond, by simpa using same, facts⟩

end Laid

def Token.between (left right : Token) (source : String) : String :=
  Span.text ⟨left.span.stop, right.span.start, right.span.line, right.span.column⟩ source

namespace Draft

/-- Neighbouring tokens of a text belong to one statement exactly if no line break stands between
them, whatever line breaks there are inside the tokens; and what stands between them is a gap, so
that a comment there ends the statement. -/
theorem lines_end_at_line_breaks {source : String} {tokens front back : List Token}
    {left right : Token} (scanned : tokenize source = .ok tokens)
    (bounded : source.toList.count '\n' < Token.lastLine)
    (neighbours : tokens = front ++ left :: right :: back) :
    ((∃ group ∈ lines tokens, left ∈ group ∧ right ∈ group) ↔
      '\n' ∉ (left.between right source).toList) ∧
    Text.Gap (left.between right source).toList ∧
    (';' ∈ (left.between right source).toList →
      ¬ ∃ group ∈ lines tokens, left ∈ group ∧ right ∈ group) := by
  have laid := Laid.of_drain [] source.toList
  have drained : Cursor.drain ⟨.after [], source.toList⟩ = (tokens, none) :=
    tokenize_eq_ok_iff.1 scanned
  rw [drained] at laid
  obtain ⟨text, lexeme, gap, other, after, whole, spaced, written, leftSpan, rightSpan⟩ :=
    laid.neighbours neighbours
  rw [List.nil_append] at whole
  have between : left.between right source = String.ofList gap :=
    Span.text_eq whole (by rw [leftSpan]; rfl) (by rw [rightSpan]; rfl)
  rw [whole] at bounded
  simp only [List.count_append] at bounded
  have leftLine : left.line = 1 + text.count '\n' := by
    rw [Token.line, leftSpan]
    exact Place.line_after (by omega)
  have rightLine : right.line = 1 + (text ++ lexeme).count '\n' + gap.count '\n' := by
    rw [Token.line, rightSpan, Nat.add_assoc, ← List.count_append]
    exact Place.line_after (by simp only [List.count_append]; omega)
  have ended : left.endLine = 1 + (text ++ lexeme).count '\n' := by
    rw [Token.end_line_eq (by rw [leftLine, written.breaks_eq]; omega), leftLine, written.breaks_eq,
      List.count_append]
    omega
  have together : (∃ group ∈ lines tokens, left ∈ group ∧ right ∈ group) ↔ '\n' ∉ gap := by
    rw [(Token.grouped_lines tokens).together_iff neighbours laid.distinct, ended, rightLine,
      ← List.count_eq_zero]
    omega
  rw [between, String.toList_ofList, together]
  exact ⟨Iff.rfl, spaced, fun comment unbroken => unbroken (spaced.break_of_comment comment)⟩

/-- A statement with a line break in a string, a line separator between its last two tokens, which is
only a blank, and a comment behind it. -/
def brokenSource : String := "x := 'a\nb' +\u2028y ; 'c\nret x"

def brokenString : Token := ⟨.string "a\nb", ⟨5, 10, 1, 6⟩⟩

def brokenPlus : Token := ⟨.operator .add, ⟨11, 12, 2, 4⟩⟩

def brokenLast : Token := ⟨.identifier "y", ⟨15, 16, 2, 6⟩⟩

def brokenNext : Token := ⟨.keyword .ret, ⟨22, 25, 3, 1⟩⟩

def brokenTokens : List Token :=
  [⟨.identifier "x", ⟨0, 1, 1, 1⟩⟩, ⟨.assign, ⟨2, 4, 1, 3⟩⟩, brokenString, brokenPlus, brokenLast,
    brokenNext, ⟨.identifier "x", ⟨26, 27, 3, 5⟩⟩]

theorem broken_string_ends_no_line :
    tokenize brokenSource = .ok brokenTokens ∧
      (∃ group ∈ lines brokenTokens, brokenString ∈ group ∧ brokenPlus ∈ group) ∧
      ¬ ∃ group ∈ lines brokenTokens, brokenLast ∈ group ∧ brokenNext ∈ group := by
  have scanned : tokenize brokenSource = .ok brokenTokens := by decide +kernel
  have bounded : brokenSource.toList.count '\n' < Token.lastLine := by decide +kernel
  have string : brokenTokens = brokenTokens.take 2 ++ brokenString :: brokenPlus ::
      brokenTokens.drop 4 := rfl
  have comment : brokenTokens = brokenTokens.take 4 ++ brokenLast :: brokenNext ::
      brokenTokens.drop 6 := rfl
  refine ⟨scanned, (lines_end_at_line_breaks scanned bounded string).1.2 (by decide +kernel), ?_⟩
  exact (lines_end_at_line_breaks scanned bounded comment).2.2 (by decide +kernel)

end Draft

end ThreeAddress
