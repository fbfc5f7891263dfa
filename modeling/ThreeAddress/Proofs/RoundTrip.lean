import ThreeAddress.Proofs.Layout
import ThreeAddress.Proofs.Meaning

/-!
Printing and building again. The printed form of an assembled program puts every label on a line of
its own in front of the instruction it stands for. Its lines spell the same statements as the source
did, and its labels stand at the same program counters, so it means the same program.
-/

namespace ThreeAddress

namespace TokenKind

@[simp] theorem render_identifier (name : String) : (identifier name).render = name := rfl

@[simp] theorem render_label (name : String) : (label name).render = name ++ ":" := rfl

@[simp] theorem render_assign : assign.render = ":=" := rfl

@[simp] theorem render_operator (operator : BinaryOperator) :
    (TokenKind.operator operator).render = operator.symbol := rfl

@[simp] theorem render_keyword (word : Keyword) : (keyword word).render = word.spelling := rfl

end TokenKind

theorem Operand.Spelled.render_eq {token : TokenKind} {operand : Operand}
    (spelled : Operand.Spelled token operand) : operand.render = token.render := by
  cases spelled <;> rfl

theorem Reference.Spelled.render_eq {token : TokenKind} {reference : Reference}
    (spelled : Reference.Spelled token reference) :
    renderReference reference.name reference.global = token.render := by
  cases spelled <;> rfl

theorem Polarity.symbol_eq (polarity : Polarity) : polarity.symbol = polarity.keyword.spelling := by
  cases polarity <;> rfl

/-- An instruction is printed with the tokens that its statement was spelled with. -/
theorem Statement.Means.render_eq {externals : List String} {definitions : List (String × Nat)}
    {kinds : List TokenKind} {statement : Statement} {instruction : Instruction}
    (means : Means externals definitions statement instruction)
    (spelled : Spelled kinds statement) :
    instruction.render.toList = Layout.spaced kinds := by
  cases spelled with
  | assign dest value =>
      cases means
      simp [Instruction.render, Layout.spaced, value.render_eq]
  | binary dest operator left right =>
      cases means
      simp [Instruction.render, Layout.spaced, left.render_eq, right.render_eq]
  | callInto dest target =>
      have written := target.render_eq
      cases means with
      | call | callExternal =>
          simp [Instruction.render, Layout.spaced, Keyword.spelling, Callee.render, ← written]
  | branch polarity condition target =>
      have written := target.render_eq
      cases means
      simp [Instruction.render, Layout.spaced, Keyword.spelling, Target.render,
        condition.render_eq, ← written, Polarity.symbol_eq]
  | goto target =>
      have written := target.render_eq
      cases means
      simp [Instruction.render, Layout.spaced, Keyword.spelling, Target.render, ← written]
  | argument value =>
      cases means
      simp [Instruction.render, Layout.spaced, Keyword.spelling, value.render_eq]
  | call target =>
      have written := target.render_eq
      cases means with
      | call | callExternal =>
          simp [Instruction.render, Layout.spaced, Keyword.spelling, Callee.render, ← written]
  | ret =>
      cases means
      rfl
  | retValue value =>
      cases means
      simp [Instruction.render, Layout.spaced, Keyword.spelling, value.render_eq]

theorem Statement.Means.render_all {externals : List String} {definitions : List (String × Nat)}
    {bodies : List (List TokenKind)} {statements : List Statement}
    {instructions : List Instruction}
    (means : List.Forall₂ (Means externals definitions) statements instructions)
    (spelled : List.Forall₂ Spelled bodies statements) :
    instructions.map (·.render.toList) = bodies.map Layout.spaced := by
  induction means generalizing bodies with
  | nil =>
      cases spelled
      rfl
  | cons here there induction =>
      cases spelled with
      | cons first others =>
          rw [List.map_cons, List.map_cons, here.render_eq first, induction others]

theorem flat_map_range_get {α : Type} (items : List α) (count : Nat) :
    (List.range count).flatMap (fun index => items[index]?.toList) = items.take count := by
  induction count with
  | zero => rfl
  | succ count induction =>
      rw [List.range_succ, List.flatMap_append, induction, List.take_add_one, List.flatMap_singleton]

theorem filter_sorted_labels {labels : List (String × Nat)}
    (sorted : labels.Pairwise fun left right => left.2 ≤ right.2) (pc : Nat) :
    labels.filter (fun label => label.2 < pc + 1) =
      labels.filter (fun label => label.2 < pc) ++ labels.filter fun label => label.2 == pc := by
  induction sorted with
  | nil => rfl
  | @cons label labels above sorted induction =>
      rcases Nat.lt_trichotomy label.2 pc with before | here | after
      · have earlier : decide (label.2 < pc + 1) = true := decide_eq_true (by omega)
        have other : (label.2 == pc) = false := beq_eq_false_iff_ne.2 (by omega)
        simp only [List.filter_cons, earlier, decide_eq_true before, other, if_true,
          Bool.false_eq_true, if_false, induction, List.cons_append]
      · have none : labels.filter (fun label => label.2 < pc) = [] := by
          rw [List.filter_eq_nil_iff]
          intro other member
          have bound := above other member
          rw [decide_eq_true_eq]
          omega
        have earlier : decide (label.2 < pc + 1) = true := decide_eq_true (by omega)
        have notBefore : decide (label.2 < pc) = false := decide_eq_false (by omega)
        simp only [List.filter_cons, earlier, notBefore, beq_iff_eq.2 here, if_true,
          Bool.false_eq_true, if_false, induction, none, List.nil_append]
      · have notEarlier : decide (label.2 < pc + 1) = false := decide_eq_false (by omega)
        have notBefore : decide (label.2 < pc) = false := decide_eq_false (by omega)
        have other : (label.2 == pc) = false := beq_eq_false_iff_ne.2 (by omega)
        simp only [List.filter_cons, notEarlier, notBefore, other, Bool.false_eq_true, if_false,
          induction]

namespace SourceLine

def printedAt (labels : List (String × Nat)) (bodies : List Statement) (pc : Nat) :
    List SourceLine :=
  (labels.filter fun label => label.2 == pc).map (fun label => ⟨[label.1], none⟩) ++
    bodies[pc]?.toList.map fun body => ⟨[], some body⟩

theorem statements_printed_at (labels : List (String × Nat)) (bodies : List Statement) (pc : Nat) :
    statements (printedAt labels bodies pc) = bodies[pc]?.toList := by
  have none : statements ((labels.filter fun label => label.2 == pc).map
      fun label => ⟨[label.1], none⟩) = [] := by
    rw [statements, List.filterMap_map, List.filterMap_eq_nil_iff]
    intro label member
    rfl
  rw [printedAt, statements_append, none, List.nil_append]
  cases bodies[pc]? with
  | none => rfl
  | some body => rfl

theorem definitions_printed_at (labels : List (String × Nat)) (bodies : List Statement) (pc : Nat) :
    definitionsFrom pc (printedAt labels bodies pc) = labels.filter fun label => label.2 == pc := by
  have last : ∀ next, definitionsFrom next (bodies[pc]?.toList.map fun body => ⟨[], some body⟩) =
      [] := by
    intro next
    cases bodies[pc]? with
    | none => rfl
    | some body => rfl
  have alone : ∀ found : List (String × Nat), (∀ label ∈ found, label.2 = pc) →
      definitionsFrom pc (found.map fun label => ⟨[label.1], none⟩) = found := by
    intro found same
    induction found with
    | nil => rfl
    | cons label found induction =>
        obtain ⟨here, others⟩ := List.forall_mem_cons.1 same
        obtain ⟨name, held⟩ := label
        cases here
        rw [List.map_cons, definitionsFrom]
        exact congrArg _ (induction others)
  rw [printedAt, definitions_from_append, last, List.append_nil]
  apply alone
  intro label member
  simpa using (List.mem_filter.1 member).2

theorem statements_printed (labels : List (String × Nat)) (bodies : List Statement) (count : Nat) :
    statements ((List.range count).flatMap (printedAt labels bodies)) = bodies.take count := by
  rw [← flat_map_range_get, statements, List.filterMap_flatMap]
  apply List.flatMap_congr
  intro pc member
  exact statements_printed_at labels bodies pc

theorem definitions_printed {labels : List (String × Nat)}
    (sorted : labels.Pairwise fun left right => left.2 ≤ right.2) {bodies : List Statement}
    {count : Nat} (inside : count ≤ bodies.length + 1) :
    definitions ((List.range count).flatMap (printedAt labels bodies)) =
      labels.filter fun label => label.2 < count := by
  induction count with
  | zero => simp [definitions, definitionsFrom]
  | succ count induction =>
      have before : 0 + (statements ((List.range count).flatMap (printedAt labels bodies))).length =
          count := by
        rw [statements_printed, List.length_take]
        omega
      rw [definitions] at induction ⊢
      rw [List.range_succ, List.flatMap_append, definitions_from_append, before,
        induction (by omega), List.flatMap_singleton, definitions_printed_at,
        filter_sorted_labels sorted]

theorem SpelledBy.bodies {groups : List (List Token)} {sources : List SourceLine}
    (spelled : SpelledBy groups sources)
    (readable : ∀ group ∈ groups, ∀ token ∈ group, token.kind.Readable) :
    ∃ bodies, List.Forall₂ Statement.Spelled bodies (statements sources) ∧
      ∀ body ∈ bodies, body ≠ [] ∧ ∀ kind ∈ body, kind.Readable := by
  induction spelled with
  | nil => exact ⟨[], .nil, by simp⟩
  | @cons group source groups sources here there induction =>
      obtain ⟨first, others⟩ := List.forall_mem_cons.1 readable
      obtain ⟨bodies, bodiesSpelled, bodiesReadable⟩ := induction others
      have kinds : ∀ kind ∈ group.map Token.kind, kind.Readable := List.forall_mem_map.2 first
      generalize group.map Token.kind = written at here kinds
      cases here with
      | labels labels => exact ⟨bodies, bodiesSpelled, bodiesReadable⟩
      | @statement body statement labels bodySpelled =>
          have bodyReadable := (List.forall_mem_append.1 kinds).2
          refine ⟨body :: bodies, .cons bodySpelled bodiesSpelled, ?_⟩
          exact List.forall_mem_cons.2 ⟨⟨bodySpelled.ne_nil, bodyReadable⟩, bodiesReadable⟩

end SourceLine

namespace Layout

/-- The printed lines at one program counter: its labels, one to a line, and then the tokens of its
statement, indented. -/
def printedAt (labels : List (String × Nat)) (bodies : List (List TokenKind)) (pc : Nat) :
    List Line :=
  (labels.filter fun label => label.2 == pc).map (fun label => ⟨[], [.label label.1]⟩) ++
    bodies[pc]?.toList.map fun body => ⟨[' ', ' ', ' ', ' '], body⟩

theorem printed_at_valid {labels : List (String × Nat)} {bodies : List (List TokenKind)}
    (labelsReadable : ∀ label ∈ labels, (TokenKind.label label.1).Readable)
    (bodiesReadable : ∀ body ∈ bodies, body ≠ [] ∧ ∀ kind ∈ body, kind.Readable) (pc : Nat) :
    ∀ line ∈ printedAt labels bodies pc, line.Valid := by
  intro line member
  rcases List.mem_append.1 member with labelled | bodied
  · obtain ⟨label, found, rfl⟩ := List.mem_map.1 labelled
    have readable := labelsReadable label (List.mem_filter.1 found).1
    exact ⟨by simp, by simp, by simpa using readable⟩
  · obtain ⟨body, found, rfl⟩ := List.mem_map.1 bodied
    have inside := List.mem_of_getElem? (Option.mem_toList.1 found)
    obtain ⟨nonempty, readable⟩ := bodiesReadable body inside
    exact ⟨by simp, nonempty, readable⟩

theorem printed_at_spelled {labels : List (String × Nat)} {bodies : List (List TokenKind)}
    {statements : List Statement} (spelled : List.Forall₂ Statement.Spelled bodies statements)
    (pc : Nat) :
    List.Forall₂ SourceLine.Spelled ((printedAt labels bodies pc).map Line.kinds)
      (SourceLine.printedAt labels statements pc) := by
  rw [printedAt, SourceLine.printedAt, List.map_append, List.map_map, List.map_map]
  apply List.rel_append
  · rw [List.forall₂_map_left_iff, List.forall₂_map_right_iff, List.forall₂_same]
    intro label member
    exact .labels [label.1]
  · have found := forall₂_get spelled pc
    generalize bodies[pc]? = body at found ⊢
    generalize statements[pc]? = statement at found ⊢
    cases found with
    | none => exact .nil
    | some bodySpelled => exact .cons (.statement [] bodySpelled) .nil

theorem text_printed_at {labels : List (String × Nat)} {bodies : List (List TokenKind)}
    {program : Program} (sameLabels : program.labels = labels)
    (written : program.instructions.toList.map (·.render.toList) = bodies.map spaced) (pc : Nat) :
    text (printedAt labels bodies pc) =
      (program.linesAt pc).flatMap fun line => line.toList ++ ['\n'] := by
  have body : (program.get? pc).map (·.render.toList) = bodies[pc]?.map spaced := by
    rw [← List.getElem?_map, ← written, List.getElem?_map, Array.getElem?_toList]
    rfl
  rw [text, printedAt, Program.linesAt, Program.labelsAt, sameLabels, List.flatMap_append,
    List.flatMap_append]
  congr 1
  · simp only [List.flatMap_map]
    apply List.flatMap_congr
    intro label member
    simp [Line.text, spaced]
  · cases here : program.get? pc with
    | none =>
        rw [here] at body
        have missing : bodies[pc]? = none := Option.map_eq_none_iff.1 body.symm
        rw [missing]
        rfl
    | some instruction =>
        rw [here] at body
        obtain ⟨kinds, found, same⟩ := Option.map_eq_some_iff.1 body.symm
        rw [found]
        simp [Line.text, same]

end Layout

namespace Program

theorem render_eq_text {labels : List (String × Nat)} {bodies : List (List TokenKind)}
    {program : Program} (sameLabels : program.labels = labels)
    (written : program.instructions.toList.map (·.render.toList) = bodies.map Layout.spaced) :
    program.render.toList =
      Layout.text ((List.range (program.size + 1)).flatMap (Layout.printedAt labels bodies)) := by
  rw [render, String.toList_join, List.flatMap_map, List.flatMap_assoc, Layout.text,
    List.flatMap_assoc]
  apply List.flatMap_congr
  intro pc member
  have lines := Layout.text_printed_at sameLabels written pc
  rw [Layout.text] at lines
  rw [lines]
  simp

/-- The printed lines mean the program that they print, where its labels are distinct and in order
and its instructions are what the statements mean. -/
theorem means_printed {externals : List String} {statements : List Statement} {program : Program}
    (distinct : (program.labels.map Prod.fst).Nodup)
    (sorted : program.labels.Pairwise fun left right => left.2 ≤ right.2)
    (bounded : ∀ label ∈ program.labels, label.2 ≤ program.size)
    (indexed : program.labelIndex = .ofList program.labels)
    (instructions : List.Forall₂ (Statement.Means externals program.labels) statements
      program.instructions.toList) :
    Means externals ((List.range (program.size + 1)).flatMap
      (SourceLine.printedAt program.labels statements)) program := by
  have size : program.size = statements.length := by
    rw [instructions.length_eq, Array.length_toList]
    rfl
  have definitions : SourceLine.definitions ((List.range (program.size + 1)).flatMap
      (SourceLine.printedAt program.labels statements)) = program.labels := by
    rw [SourceLine.definitions_printed sorted (by rw [size]), List.filter_eq_self]
    intro label member
    exact decide_eq_true (Nat.lt_succ_of_le (bounded label member))
  have same : SourceLine.statements ((List.range (program.size + 1)).flatMap
      (SourceLine.printedAt program.labels statements)) = statements := by
    rw [SourceLine.statements_printed, List.take_of_length_le (by rw [size]; omega)]
  refine ⟨?_, definitions.symm, indexed, ?_⟩
  · rw [← SourceLine.definitions_names, definitions]
    exact distinct
  · rw [same, definitions]
    exact instructions

theorem Means.printed {externals : List String} {sources : List SourceLine} {program : Program}
    (means : Means externals sources program) :
    Means externals ((List.range (program.size + 1)).flatMap
      (SourceLine.printedAt program.labels (SourceLine.statements sources))) program := by
  apply means_printed
  · rw [means.labels, SourceLine.definitions_names]
    exact means.distinct
  · rw [means.labels]
    exact SourceLine.definitions_from_sorted 0 sources
  · intro label member
    rw [means.labels] at member
    have bounds := SourceLine.definitions_from_bounds member
    rw [means.size_eq]
    omega
  · exact means.indexed
  · rw [means.labels]
    exact means.instructions

/-- The printed form of an assembled program assembles to the same program, as long as its lines can
be numbered. -/
theorem of_source_render {externals : List String} {source : String} {program : Program}
    (built : ofSource externals source = .ok program)
    (numbered : program.render.toList.count '\n' < Token.lastLine) :
    ofSource externals program.render = .ok program := by
  obtain ⟨tokens, drained, sources, ⟨groups, grouped, spelled⟩, means⟩ :=
    of_source_eq_ok_iff.1 built
  have readable := grouped.readable drained
  obtain ⟨bodies, bodiesSpelled, bodiesReadable⟩ := spelled.bodies readable
  have written : program.instructions.toList.map (·.render.toList) =
      bodies.map Layout.spaced := Statement.Means.render_all means.instructions bodiesSpelled
  have text := render_eq_text rfl written
  have valid : ∀ line ∈ (List.range (program.size + 1)).flatMap
      (Layout.printedAt program.labels bodies), line.Valid := by
    intro line member
    obtain ⟨pc, -, inside⟩ := List.mem_flatMap.1 member
    refine Layout.printed_at_valid ?_ bodiesReadable pc line inside
    intro label found
    apply spelled.names_readable readable
    rw [← SourceLine.definitions_names, ← means.labels]
    exact List.mem_map_of_mem found
  have fits : Place.start.Fits (Layout.text ((List.range (program.size + 1)).flatMap
      (Layout.printedAt program.labels bodies))) := by
    rw [Place.Fits, ← text]
    change 1 + _ ≤ _
    omega
  obtain ⟨printed, scanned, kinds, -⟩ := Layout.drain_text valid fits
  refine of_source_eq_ok_iff.2 ⟨printed, ?_, _, ⟨_, Token.grouped_iff.2 rfl, ?_⟩, means.printed⟩
  · rw [text]
    exact scanned
  · rw [SourceLine.SpelledBy, ← List.forall₂_map_left_iff, kinds, List.map_flatMap]
    refine List.rel_flatMap (List.forall₂_same.2 fun pc _ => rfl) ?_
    intro pc same equal
    cases equal
    exact Layout.printed_at_spelled bodiesSpelled pc

def mixedSource : String := "a: b:\n x := 'p;\nq' ; note\n call @goto\nlast:"

def mixedProgram : Program :=
  ofParts [.assign "x" (.literal (.text "p;\nq")), .call none ⟨"goto", true, none⟩]
    [("a", 0), ("b", 0), ("last", 2)]

theorem of_source_render_mixed :
    ofSource ["goto"] mixedSource = .ok mixedProgram ∧
      mixedProgram.render.toList.count '\n' < Token.lastLine ∧
      ofSource ["goto"] mixedProgram.render = .ok mixedProgram := by
  have built : ofSource ["goto"] mixedSource = .ok mixedProgram := by decide +kernel
  have numbered : mixedProgram.render.toList.count '\n' < Token.lastLine := by decide +kernel
  exact ⟨built, numbered, of_source_render built numbered⟩

end Program

end ThreeAddress
