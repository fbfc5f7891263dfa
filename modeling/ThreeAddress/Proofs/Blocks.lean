import ThreeAddress.Proofs.LineBreak
import ThreeAddress.Proofs.Meaning

/-!
Blocks of program text. A block is made of whole lines, begins with a label and ends with a jump or
a return, so that control enters and leaves it by name only. The text of several blocks is read as
the lines of the blocks one after the other.
-/

namespace ThreeAddress

/-- Control never goes on to the statement after this one. -/
def Statement.Leaves : Statement → Prop
  | .goto _ | .ret _ => True
  | .assign .. | .binary .. | .branch .. | .argument _ | .call .. => False

structure Block where
  text : String
  lines : List SourceLine
  reads : ∃ tokens, tokenize text = .ok tokens ∧ SourceLine.Reads tokens lines
  closed : text.toList.getLast? = some '\n'
  labelled : ∃ first ∈ lines.head?, first.labels ≠ []
  leaves : ∃ last ∈ lines.getLast?, ∃ body ∈ last.statement, body.Leaves

namespace Block

def join (blocks : List Block) : String := String.join (blocks.map text)

def source (blocks : List Block) : List SourceLine := blocks.flatMap lines

theorem exists_text_eq (block : Block) : ∃ body, block.text.toList = body ++ ['\n'] := by
  obtain ⟨body, whole⟩ := List.getLast?_eq_some_iff.1 block.closed
  exact ⟨body, whole⟩

theorem join_cons (block : Block) (blocks : List Block) :
    (join (block :: blocks)).toList = block.text.toList ++ (join blocks).toList := by
  simp [join]

theorem drain_join {blocks : List Block} {bytes count : Nat}
    (numbered : count + (join blocks).toList.count '\n' < Token.lastLine) :
    ∃ tokens, Cursor.drain ⟨Place.start.shift bytes count, (join blocks).toList⟩ = (tokens, none) ∧
      SourceLine.Reads tokens (source blocks) ∧ ∀ first ∈ tokens.head?, count < first.line := by
  induction blocks generalizing bytes count with
  | nil =>
      exact ⟨[], Cursor.drain_of_finished rfl, ⟨[], Token.grouped_iff.2 rfl, .nil⟩, by simp⟩
  | cons block blocks induction =>
      obtain ⟨own, scanned, reads⟩ := block.reads
      obtain ⟨body, text⟩ := block.exists_text_eq
      rw [tokenize_eq_ok_iff, text] at scanned
      rw [join_cons, text] at numbered ⊢
      simp only [List.count_append, List.count_singleton_self] at numbered
      have moved : Cursor.drain ⟨Place.start.shift bytes count, body ++ ['\n']⟩ =
          (own.map (Token.shift bytes count), none) := by
        have shifted := Cursor.drain_shift bytes count (.ofText (body ++ ['\n']))
        rw [scanned] at shifted
        exact shifted
      have begin : (Place.start.shift bytes count).line.toNat = 1 + count := by
        rw [Place.line_shift]
        exact Text.line_below_eq (by change 1 + count ≤ _; omega)
      have unmoved : Place.start.Fits body := by
        change 1 + _ ≤ _
        omega
      have fits : (Place.start.shift bytes count).Fits body := by
        rw [Place.Fits, begin]
        omega
      have line := fits.line
      have within := (Cursor.drain_closed scanned unmoved).1
      rw [unmoved.line] at within
      obtain ⟨placed, drained⟩ := Cursor.drain_closed moved fits
      obtain ⟨later, drainedLater, readsLater, below⟩ :=
        @induction ((Place.past _ body).offset + 1) (Place.past _ body).line.toNat
          (by rw [line, begin]; omega)
      have readsOwn : SourceLine.Reads (own.map (Token.shift bytes count)) block.lines := by
        apply reads.shift
        intro token member
        have bounds : _ ≤ 1 + body.count '\n' := (within token member).2
        omega
      refine ⟨own.map (Token.shift bytes count) ++ later, ?_, ?_, ?_⟩
      · rw [List.append_assoc, List.singleton_append, drained, Place.past_break, drainedLater]
      · apply readsOwn.append readsLater
        intro last ends next begins
        have bounds := (placed last (List.mem_of_getLast? ends)).2
        have after := below next begins
        rw [Token.end_line_eq (by omega)]
        omega
      · intro first begins
        cases own with
        | nil =>
            have after := below first begins
            omega
        | cons token own =>
            cases begins
            have bounds := (placed _ List.mem_cons_self).1
            omega

theorem of_source_join_eq_ok_iff {externals : List String} {blocks : List Block}
    (numbered : (join blocks).toList.count '\n' < Token.lastLine) {program : Program} :
    Program.ofSource externals (join blocks) = .ok program ↔
      Program.Means (externals.map Text.bareName) (source blocks) program := by
  obtain ⟨tokens, drained, reads, -⟩ := @drain_join blocks 0 0 (by omega)
  have scanned : (Cursor.ofText (join blocks).toList).drain = (tokens, none) := drained
  rw [Program.of_source_eq_ok_iff]
  constructor
  · intro assembled
    obtain ⟨others, otherDrained, sources, otherReads, means⟩ := assembled
    cases scanned.symm.trans otherDrained
    rw [reads.unique otherReads]
    exact means
  · intro means
    exact ⟨tokens, scanned, source blocks, reads, means⟩

end Block

end ThreeAddress
