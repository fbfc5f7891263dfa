import ThreeAddress.Proofs.Grammar
import ThreeAddress.Proofs.Spelling

/-!
Written lines of tokens. A line is an indentation and then its tokens, one space apart, and ends
with a line break. Scanning the lines gives back exactly their tokens, grouped by line, as long as
the line numbers stay in range.
-/

namespace ThreeAddress

namespace Place

theorem past_cons (place : Place) (c : Char) (characters : List Char) :
    place.past (c :: characters) = (place.advance c).past characters := rfl

theorem past_line (place : Place) (characters : List Char) :
    (place.past characters).line = place.line + .ofNat (characters.count '\n') := by
  induction characters generalizing place with
  | nil => exact (UInt32.add_zero _).symm
  | cons c characters induction =>
      rw [past_cons, induction, List.count_cons]
      by_cases broken : c = '\n'
      · simp only [advance, broken, if_true, beq_self_eq_true]
        rw [UInt32.ofNat_add, UInt32.add_assoc, UInt32.add_comm 1]
        rfl
      · simp [advance, broken]

/-- The numbers do not run out for the lines of a text that is written at the place. -/
def Fits (place : Place) (text : List Char) : Prop :=
  place.line.toNat + text.count '\n' ≤ Token.lastLine

theorem Fits.line {place : Place} {text : List Char} (fits : place.Fits text) :
    (place.past text).line.toNat = place.line.toNat + text.count '\n' := by
  rw [past_line, UInt32.toNat_add, UInt32.toNat_ofNat']
  have last : Token.lastLine = 2 ^ 32 - 1 := rfl
  rw [Fits] at fits
  omega

theorem fits_append_iff {place : Place} {first second : List Char} :
    place.Fits (first ++ second) ↔ place.Fits first ∧ (place.past first).Fits second := by
  constructor
  · intro fits
    rw [Fits, List.count_append] at fits
    have here : place.Fits first := by
      rw [Fits]
      omega
    refine ⟨here, ?_⟩
    rw [Fits, here.line]
    omega
  · intro both
    obtain ⟨here, there⟩ := both
    rw [Fits, here.line] at there
    rw [Fits, List.count_append]
    omega

end Place

theorem Token.Grouped.readable {cursor : Cursor} {tokens : List Token} {groups : List (List Token)}
    (grouped : Grouped tokens groups) (drained : cursor.drain = (tokens, none)) :
    ∀ group ∈ groups, ∀ token ∈ group, token.kind.Readable := by
  intro group member token inside
  have all := cursor.drain_readable
  rw [drained] at all
  apply all
  rw [← grouped.whole]
  exact List.mem_flatten_of_mem member inside

theorem SourceLine.SpelledBy.names_readable {groups : List (List Token)} {sources : List SourceLine}
    (spelled : SpelledBy groups sources)
    (readable : ∀ group ∈ groups, ∀ token ∈ group, token.kind.Readable) :
    ∀ name ∈ names sources, (TokenKind.label name).Readable := by
  induction spelled with
  | nil => simp [names]
  | @cons group source groups sources here there induction =>
      obtain ⟨first, others⟩ := List.forall_mem_cons.1 readable
      have kinds : ∀ kind ∈ group.map Token.kind, kind.Readable := List.forall_mem_map.2 first
      have written : ∀ name ∈ source.labels, TokenKind.label name ∈ group.map Token.kind := by
        intro name member
        generalize group.map Token.kind = written at here ⊢
        cases here with
        | labels labels => exact List.mem_map_of_mem member
        | statement labels body => exact List.mem_append_left _ (List.mem_map_of_mem member)
      intro name member
      rcases List.mem_append.1 member with own | later
      · exact kinds _ (written name own)
      · exact induction others name later

namespace Layout

def spaced : List TokenKind → List Char
  | [] => []
  | [kind] => kind.render.toList
  | kind :: next :: rest => kind.render.toList ++ ' ' :: spaced (next :: rest)

/-- The tokens that stand in the text of `spaced` when it is written at a place. -/
def laid (place : Place) : List TokenKind → List Token
  | [] => []
  | kind :: rest =>
      Cursor.tokenAt place kind :: laid ((place.past kind.render.toList).advance ' ') rest

theorem laid_kinds (place : Place) (kinds : List TokenKind) :
    (laid place kinds).map Token.kind = kinds := by
  induction kinds generalizing place with
  | nil => rfl
  | cons kind kinds induction => rw [laid, List.map_cons, induction]; rfl

theorem past_spaced (place : Place) (kind next : TokenKind) (kinds : List TokenKind) :
    place.past (spaced (kind :: next :: kinds)) =
      ((place.past kind.render.toList).advance ' ').past (spaced (next :: kinds)) := by
  rw [spaced, Place.past_append, Place.past_cons]

theorem fits_spaced {place : Place} {kind next : TokenKind} {kinds : List TokenKind} :
    place.Fits (spaced (kind :: next :: kinds)) ↔
      place.Fits kind.render.toList ∧
        ((place.past kind.render.toList).advance ' ').Fits (spaced (next :: kinds)) := by
  rw [spaced, Place.fits_append_iff]
  rfl

theorem drain_spaced {kinds : List TokenKind} (readable : ∀ kind ∈ kinds, kind.Readable)
    (nonempty : kinds ≠ []) {rest : List Char} (separated : Lexeme.Separated rest)
    (place : Place) :
    Cursor.drain ⟨place, spaced kinds ++ rest⟩ =
      (laid place kinds ++ (Cursor.drain ⟨place.past (spaced kinds), rest⟩).1,
        (Cursor.drain ⟨place.past (spaced kinds), rest⟩).2) := by
  induction kinds generalizing place with
  | nil => exact absurd rfl nonempty
  | cons kind kinds induction =>
      have first := readable kind List.mem_cons_self
      cases kinds with
      | nil =>
          have scanned := Cursor.scan_render first separated place
          rw [spaced, Cursor.drain_of_token scanned]
          rfl
      | cons next kinds =>
          have gap : Lexeme.Separated (' ' :: (spaced (next :: kinds) ++ rest)) := by
            intro c member
            cases member
            rfl
          have scanned := Cursor.scan_render first gap place
          have text : spaced (kind :: next :: kinds) ++ rest =
              kind.render.toList ++ ' ' :: (spaced (next :: kinds) ++ rest) := by
            rw [spaced, List.append_assoc, List.cons_append]
          have blank : Cursor.drain ⟨place.past kind.render.toList,
              ' ' :: (spaced (next :: kinds) ++ rest)⟩ =
              Cursor.drain ⟨(place.past kind.render.toList).advance ' ',
                spaced (next :: kinds) ++ rest⟩ :=
            @Cursor.drain_blanks [' '] (by simp; rfl) _ _
          have later := induction (fun other member => readable other (List.mem_cons_of_mem _ member))
            (List.cons_ne_nil next kinds) ((place.past kind.render.toList).advance ' ')
          rw [text, Cursor.drain_of_token scanned, blank, past_spaced, later]
          rfl

theorem end_line_token_at {kind : TokenKind} (readable : kind.Readable) {place : Place}
    (fits : place.Fits kind.render.toList) :
    (Cursor.tokenAt place kind).endLine = (place.past kind.render.toList).line.toNat := by
  have written := Lexeme.written_render readable Lexeme.separated_nil
  rw [fits.line, ← written.breaks_eq]
  rw [Place.Fits, ← written.breaks_eq] at fits
  exact Token.end_line_eq fits

theorem laid_joined {kinds : List TokenKind} (readable : ∀ kind ∈ kinds, kind.Readable)
    {place : Place} (fits : place.Fits (spaced kinds)) :
    (laid place kinds).IsChain fun left right => left.endLine = right.line := by
  induction kinds generalizing place with
  | nil => exact .nil
  | cons kind kinds induction =>
      cases kinds with
      | nil => exact .singleton _
      | cons next kinds =>
          obtain ⟨before, after⟩ := fits_spaced.1 fits
          have later := induction (fun other member => readable other (List.mem_cons_of_mem _ member))
            after
          have joined := end_line_token_at (readable kind List.mem_cons_self) before
          exact List.isChain_cons_cons.2 ⟨joined, later⟩

theorem end_line_of_last_laid {kinds : List TokenKind} (readable : ∀ kind ∈ kinds, kind.Readable)
    {place : Place} (fits : place.Fits (spaced kinds)) {last : Token}
    (ends : last ∈ (laid place kinds).getLast?) :
    last.endLine = (place.past (spaced kinds)).line.toNat := by
  induction kinds generalizing place with
  | nil => cases ends
  | cons kind kinds induction =>
      cases kinds with
      | nil =>
          cases ends
          exact end_line_token_at (readable kind List.mem_cons_self) fits
      | cons next kinds =>
          rw [past_spaced]
          refine induction (fun other member => readable other (List.mem_cons_of_mem _ member))
            (fits_spaced.1 fits).2 ?_
          rw [laid, laid, List.getLast?_cons_cons] at ends
          exact ends

structure Line where
  indent : List Char
  kinds : List TokenKind

namespace Line

def text (line : Line) : List Char := line.indent ++ (spaced line.kinds ++ ['\n'])

structure Valid (line : Line) : Prop where
  spaces : ∀ c ∈ line.indent, c = ' '
  nonempty : line.kinds ≠ []
  readable : ∀ kind ∈ line.kinds, kind.Readable

end Line

def text (lines : List Line) : List Char := lines.flatMap Line.text

theorem drain_line {line : Line} (valid : line.Valid) (place : Place) (rest : List Char) :
    Cursor.drain ⟨place, line.text ++ rest⟩ =
      (laid (place.past line.indent) line.kinds ++ (Cursor.drain ⟨place.past line.text, rest⟩).1,
        (Cursor.drain ⟨place.past line.text, rest⟩).2) := by
  have blanks : ∀ c ∈ line.indent, Text.isBlank c = true := by
    intro c member
    rw [valid.spaces c member]
    rfl
  have separated : Lexeme.Separated ('\n' :: rest) := by
    intro c member
    cases member
    rfl
  have broken : Cursor.drain ⟨(place.past line.indent).past (spaced line.kinds), '\n' :: rest⟩ =
      Cursor.drain ⟨place.past line.text, rest⟩ := by
    rw [Line.text, Place.past_append, Place.past_append]
    exact @Cursor.drain_blanks ['\n'] (by simp; rfl) _ _
  rw [Line.text, List.append_assoc, List.append_assoc, Cursor.drain_blanks blanks,
    List.singleton_append, drain_spaced valid.readable valid.nonempty separated, broken]
  rfl

/-- Lines that are written one after the other are scanned as their tokens, line by line. -/
theorem drain_text {lines : List Line} (valid : ∀ line ∈ lines, line.Valid) {place : Place}
    (fits : place.Fits (text lines)) :
    ∃ tokens, Cursor.drain ⟨place, text lines⟩ = (tokens, none) ∧
      (Draft.lines tokens).map (·.map Token.kind) = lines.map Line.kinds ∧
      ∀ first ∈ tokens.head?, place.line.toNat ≤ first.line := by
  induction lines generalizing place with
  | nil => exact ⟨[], Cursor.drain_of_finished rfl, rfl, by simp⟩
  | cons line lines induction =>
      have here := valid line List.mem_cons_self
      have whole : text (line :: lines) = line.text ++ text lines := rfl
      rw [whole, Place.fits_append_iff] at fits
      obtain ⟨own, others⟩ := fits
      obtain ⟨later, drained, grouped, below⟩ :=
        induction (fun other member => valid other (List.mem_cons_of_mem _ member)) others
      rw [Line.text, Place.fits_append_iff, Place.fits_append_iff] at own
      obtain ⟨indented, inside, broken⟩ := own
      have start : (place.past line.indent).line.toNat = place.line.toNat := by
        have none : line.indent.count '\n' = 0 := by
          rw [List.count_eq_zero]
          intro member
          exact absurd (here.spaces _ member) (by decide)
        rw [indented.line, none]
        rfl
      have stop : (place.past line.text).line.toNat =
          ((place.past line.indent).past (spaced line.kinds)).line.toNat + 1 := by
        rw [Line.text, Place.past_append, Place.past_append, broken.line]
        rfl
      have nonempty : laid (place.past line.indent) line.kinds ≠ [] := by
        intro empty
        have kinds := laid_kinds (place.past line.indent) line.kinds
        rw [empty] at kinds
        exact here.nonempty kinds.symm
      have apart : ∀ last ∈ (laid (place.past line.indent) line.kinds).getLast?,
          ∀ next ∈ later.head?, last.endLine ≠ next.line := by
        intro last ends next begins
        have ended := end_line_of_last_laid here.readable inside ends
        have begun := below next begins
        omega
      refine ⟨laid (place.past line.indent) line.kinds ++ later, ?_, ?_, ?_⟩
      · rw [whole, drain_line here, drained]
      · rw [Draft.lines_append apart,
          Draft.lines_of_joined nonempty (laid_joined here.readable inside), List.map_append, grouped,
          List.map_singleton, laid_kinds]
        rfl
      · intro first begins
        rw [List.head?_append_of_ne_nil _ nonempty] at begins
        cases kinds : line.kinds with
        | nil => exact absurd kinds here.nonempty
        | cons kind others =>
            rw [kinds] at begins
            cases begins
            exact Nat.le_of_eq start.symm

end Layout

end ThreeAddress
