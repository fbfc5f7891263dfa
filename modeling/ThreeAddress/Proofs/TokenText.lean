import ThreeAddress.Proofs.Layout
import ThreeAddress.Proofs.Meaning

/-!
Tokens as text. Tokens that are written with single spaces between them are scanned as the same
tokens, each at the place where it is written, exactly if all of them are readable.
-/

namespace ThreeAddress

namespace Layout

theorem spaced_eq_intercalate (kinds : List TokenKind) :
    spaced kinds = (" ".intercalate (kinds.map TokenKind.render)).toList := by
  induction kinds with
  | nil => simp [spaced]
  | cons kind kinds induction =>
      cases kinds with
      | nil => simp [spaced]
      | cons next kinds => rw [spaced, induction]; simp

theorem tokenize_spaced {kinds : List TokenKind} (readable : ∀ kind ∈ kinds, kind.Readable) :
    tokenize (" ".intercalate (kinds.map TokenKind.render)) = .ok (laid .start kinds) := by
  rw [tokenize_eq_ok_iff, ← spaced_eq_intercalate, Cursor.ofText]
  cases kinds with
  | nil => exact Cursor.drain_of_finished rfl
  | cons kind kinds =>
      have ended : Cursor.drain ⟨Place.start.past (spaced (kind :: kinds)), []⟩ = ([], none) :=
        Cursor.drain_of_finished rfl
      have drained := drain_spaced readable (List.cons_ne_nil kind kinds)
        Lexeme.separated_nil .start
      rwa [ended, List.append_nil, List.append_nil] at drained

end Layout

theorem readable_of_tokenize {source : String} {tokens : List Token}
    (scanned : tokenize source = .ok tokens) : ∀ token ∈ tokens, token.kind.Readable := by
  have all := (Cursor.ofText source.toList).drain_readable
  rwa [tokenize_eq_ok_iff.1 scanned] at all

/-- Scanning undoes the writing of tokens with single spaces between them where the words among them
are identifiers, and no keywords unless they are globals, the numbers carry no sign and the strings
hold no quote; and only there. -/
theorem scanning_undoes_writing (kinds : List TokenKind) :
    (∀ kind ∈ kinds, kind.Readable) ↔
      ∃ tokens, tokenize (" ".intercalate (kinds.map TokenKind.render)) = .ok tokens ∧
        tokens.map Token.kind = kinds := by
  constructor
  · intro readable
    exact ⟨_, Layout.tokenize_spaced readable, Layout.laid_kinds .start kinds⟩
  · intro scanned
    obtain ⟨tokens, accepted, rfl⟩ := scanned
    exact List.forall_mem_map.2 (readable_of_tokenize accepted)

/-- A label before `:=`, parts of longer operators, words that only begin like keywords, the greatest
number, and a string that looks like a comment with a line break in it. -/
example :
    (tokenize (" ".intercalate ([.label "goto_", .assign, .operator .lt, .operator .eq,
        .identifier "ifzz", .globalRef "ret", .number 9223372036854775807, .string ";\n:="].map
          TokenKind.render))).toOption.map (·.map Token.kind) =
      some [.label "goto_", .assign, .operator .lt, .operator .eq, .identifier "ifzz",
        .globalRef "ret", .number 9223372036854775807, .string ";\n:="] := by
  decide +kernel

end ThreeAddress
