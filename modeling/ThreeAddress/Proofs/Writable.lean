import ThreeAddress.Proofs.Linking
import ThreeAddress.Proofs.RoundTrip

/-!
Writable programs. A program that passes its check need not have a written form: an image can hold
names that are no identifiers, literals that no text spells and labels out of order. The printed
form of a program builds back into it exactly if the program passes its check and is writable, and
these are the only programs that any text builds.
-/

namespace ThreeAddress

def Word (name : String) : Prop :=
  Text.isIdentifier name.toList = true ∧ Keyword.ofSpelling? name = none

instance : DecidablePred Word := fun _ => inferInstanceAs (Decidable (_ ∧ _))

def Value.Writable : Value → Prop
  | .integer number => 0 ≤ number.toInt
  | .text contents => Lexeme.quote ∉ contents.toList
  | .globalRef _ => False

instance : DecidablePred Value.Writable
  | .integer number => inferInstanceAs (Decidable (0 ≤ number.toInt))
  | .text contents => inferInstanceAs (Decidable (Lexeme.quote ∉ contents.toList))
  | .globalRef _ => inferInstanceAs (Decidable False)

def Operand.Writable : Operand → Prop
  | .variable name => Word name
  | .global name => Text.isIdentifier name.toList = true
  | .literal value => value.Writable

instance : DecidablePred Operand.Writable
  | .variable name => inferInstanceAs (Decidable (Word name))
  | .global name => inferInstanceAs (Decidable (Text.isIdentifier name.toList = true))
  | .literal value => inferInstanceAs (Decidable value.Writable)

/-- Only behind an `@` may a target or callee have the name of a keyword. -/
def Reference.Writable (reference : Reference) : Prop :=
  Text.isIdentifier reference.name.toList = true ∧
    (reference.global = false → Keyword.ofSpelling? reference.name = none)

instance : DecidablePred Reference.Writable := fun _ => inferInstanceAs (Decidable (_ ∧ _))

def Instruction.Writable : Instruction → Prop
  | .assign dest value => Word dest ∧ value.Writable
  | .binary dest left _ right => Word dest ∧ left.Writable ∧ right.Writable
  | .goto target => Reference.Writable ⟨target.name, target.global⟩
  | .branch _ condition target =>
      condition.Writable ∧ Reference.Writable ⟨target.name, target.global⟩
  | .argument value => value.Writable
  | .call dest callee =>
      (∀ name ∈ dest, Word name) ∧ Reference.Writable ⟨callee.name, callee.global⟩
  | .ret value => ∀ operand ∈ value, operand.Writable
  | .labelMarker _ => False

instance : DecidablePred Instruction.Writable
  | .assign .. | .binary .. | .branch .. | .call .. => inferInstanceAs (Decidable (_ ∧ _))
  | .goto target => inferInstanceAs (Decidable (Reference.Writable ⟨target.name, target.global⟩))
  | .argument value => inferInstanceAs (Decidable value.Writable)
  | .ret value => inferInstanceAs (Decidable (∀ operand ∈ value, operand.Writable))
  | .labelMarker _ => inferInstanceAs (Decidable False)

/-- Labels are listed in the order in which they stand, and all that the program holds has a
spelling. -/
structure Program.Writable (program : Program) : Prop where
  ordered : program.labels.Pairwise fun left right => left.2 ≤ right.2
  labels : ∀ label ∈ program.labels, Word label.1
  instructions : ∀ instruction ∈ program.instructions, instruction.Writable

instance (program : Program) : Decidable program.Writable :=
  decidable_of_iff
    (program.labels.Pairwise (fun left right => left.2 ≤ right.2) ∧
      (∀ label ∈ program.labels, Word label.1) ∧
      ∀ instruction ∈ program.instructions, instruction.Writable)
    ⟨fun parts => ⟨parts.1, parts.2.1, parts.2.2⟩,
      fun writable => ⟨writable.ordered, writable.labels, writable.instructions⟩⟩

def Instruction.externalCallee? : Instruction → Option String
  | .call _ callee => if callee.entry.isNone then some callee.name else none
  | _ => none

def Program.externalCallees (program : Program) : List String :=
  program.instructions.toList.filterMap Instruction.externalCallee?

namespace TokenKind

@[simp] theorem readable_identifier (name : String) : (identifier name).Readable ↔ Word name := .rfl

@[simp] theorem readable_assign : assign.Readable := trivial

@[simp] theorem readable_operator (operator : BinaryOperator) :
    (TokenKind.operator operator).Readable := trivial

@[simp] theorem readable_keyword (word : Keyword) : (keyword word).Readable := trivial

end TokenKind

theorem Operand.Spelled.readable_iff {token : TokenKind} {operand : Operand}
    (spelled : Operand.Spelled token operand) : token.Readable ↔ operand.Writable := by
  cases spelled <;> rfl

theorem Operand.exists_spelled {operand : Operand} (writable : operand.Writable) :
    ∃ token, Operand.Spelled token operand := by
  cases operand with
  | «variable» name => exact ⟨_, .variable name⟩
  | global name => exact ⟨_, .global name⟩
  | literal value =>
      cases value with
      | integer number => exact ⟨_, .number number⟩
      | text contents => exact ⟨_, .string contents⟩
      | globalRef name => exact writable.elim

theorem Reference.Spelled.readable_iff {token : TokenKind} {reference : Reference}
    (spelled : Reference.Spelled token reference) : token.Readable ↔ reference.Writable := by
  cases spelled <;> simp [TokenKind.Readable, Reference.Writable]

theorem Reference.exists_spelled (reference : Reference) :
    ∃ token, Reference.Spelled token reference := by
  obtain ⟨name, global⟩ := reference
  cases global with
  | false => exact ⟨_, .identifier name⟩
  | true => exact ⟨_, .global name⟩

namespace Statement.Means

variable {externals : List String} {definitions : List (String × Nat)} {statement : Statement}
  {instruction : Instruction}

theorem readable_iff {kinds : List TokenKind}
    (means : Means externals definitions statement instruction)
    (spelled : Spelled kinds statement) :
    (∀ kind ∈ kinds, kind.Readable) ↔ instruction.Writable := by
  cases spelled with
  | assign dest value =>
      cases means
      simp [Instruction.Writable, value.readable_iff]
  | binary dest operator left right =>
      cases means
      simp [Instruction.Writable, left.readable_iff, right.readable_iff]
  | callInto dest target =>
      have written := target.readable_iff
      cases means with
      | call | callExternal =>
          simp [Instruction.Writable, written]
  | branch polarity condition target =>
      have written := target.readable_iff
      cases means
      simp [Instruction.Writable, condition.readable_iff, written]
  | goto target =>
      have written := target.readable_iff
      cases means
      simp [Instruction.Writable, written]
  | argument value =>
      cases means
      simp [Instruction.Writable, value.readable_iff]
  | call target =>
      have written := target.readable_iff
      cases means with
      | call | callExternal => simp [Instruction.Writable, written]
  | ret =>
      cases means
      simp [Instruction.Writable]
  | retValue value =>
      cases means
      simp [Instruction.Writable, value.readable_iff]

theorem exists_spelled (means : Means externals definitions statement instruction)
    (writable : instruction.Writable) : ∃ kinds, Spelled kinds statement := by
  have called : ∀ (dest : Option String) (callee : Reference),
      ∃ kinds, Spelled kinds (.call dest callee) := by
    intro dest callee
    obtain ⟨token, spelled⟩ := callee.exists_spelled
    cases dest with
    | none => exact ⟨_, .call spelled⟩
    | some name => exact ⟨_, .callInto name spelled⟩
  cases means with
  | assign dest value =>
      obtain ⟨token, spelled⟩ := Operand.exists_spelled writable.2
      exact ⟨_, .assign dest spelled⟩
  | binary dest left operator right =>
      obtain ⟨first, leftSpelled⟩ := Operand.exists_spelled writable.2.1
      obtain ⟨second, rightSpelled⟩ := Operand.exists_spelled writable.2.2
      exact ⟨_, .binary dest operator leftSpelled rightSpelled⟩
  | goto global defined =>
      obtain ⟨token, spelled⟩ := Reference.exists_spelled ⟨_, global⟩
      exact ⟨_, .goto spelled⟩
  | branch polarity condition global defined =>
      obtain ⟨first, conditionSpelled⟩ := Operand.exists_spelled writable.1
      obtain ⟨second, targetSpelled⟩ := Reference.exists_spelled ⟨_, global⟩
      exact ⟨_, .branch polarity conditionSpelled targetSpelled⟩
  | argument value =>
      obtain ⟨token, spelled⟩ := Operand.exists_spelled writable
      exact ⟨_, .argument spelled⟩
  | call dest global defined => exact called dest _
  | callExternal dest undefined known => exact called dest _
  | ret value =>
      cases value with
      | none => exact ⟨_, .ret⟩
      | some value =>
          obtain ⟨token, spelled⟩ := Operand.exists_spelled (writable value rfl)
          exact ⟨_, .retValue spelled⟩

theorem writable_all {bodies : List (List TokenKind)} {statements : List Statement}
    {instructions : List Instruction}
    (means : List.Forall₂ (Means externals definitions) statements instructions)
    (spelled : List.Forall₂ Spelled bodies statements)
    (readable : ∀ body ∈ bodies, body ≠ [] ∧ ∀ kind ∈ body, kind.Readable) :
    ∀ instruction ∈ instructions, instruction.Writable := by
  induction means generalizing bodies with
  | nil => nofun
  | cons here there induction =>
      cases spelled with
      | cons first others =>
          obtain ⟨own, rest⟩ := List.forall_mem_cons.1 readable
          exact List.forall_mem_cons.2 ⟨(here.readable_iff first).1 own.2, induction others rest⟩

end Statement.Means

/-- A resolved instruction is meant by a statement, where its callee is known if it is external. -/
theorem Instruction.Resolved.exists_means {externals : List String} {labels : List (String × Nat)}
    {instruction : Instruction} (distinct : (labels.map Prod.fst).Nodup)
    (resolved : instruction.Resolved (.ofList labels))
    (known : ∀ name ∈ instruction.externalCallee?, name ∈ externals) :
    ∃ statement, Statement.Means externals labels statement instruction := by
  cases instruction with
  | assign dest value => exact ⟨_, .assign dest value⟩
  | binary dest left operator right => exact ⟨_, .binary dest left operator right⟩
  | goto target =>
      exact ⟨_, .goto target.global ((NameMap.find_of_list_eq_some_iff _ distinct).1 resolved)⟩
  | branch polarity condition target =>
      exact ⟨_, .branch polarity condition target.global
        ((NameMap.find_of_list_eq_some_iff _ distinct).1 resolved)⟩
  | argument value => exact ⟨_, .argument value⟩
  | call dest callee =>
      obtain ⟨name, global, entry⟩ := callee
      obtain ⟨recorded, marked⟩ := resolved
      dsimp only at recorded marked
      cases found : (NameMap.ofList labels).find? name with
      | some pc =>
          rw [recorded, found]
          exact ⟨_, .call dest global ((NameMap.find_of_list_eq_some_iff _ distinct).1 found)⟩
      | none =>
          rw [found] at recorded
          rw [recorded] at known ⊢
          rw [marked found]
          exact ⟨_, .callExternal dest ((NameMap.find_of_list_eq_none_iff _ distinct).1 found)
            (known name rfl)⟩
  | ret value => exact ⟨_, .ret value⟩
  | labelMarker name => exact resolved.elim

theorem Layout.reads_text {lines : List Line} {sources : List SourceLine}
    (valid : ∀ line ∈ lines, line.Valid)
    (spelled : List.Forall₂ SourceLine.Spelled (lines.map Line.kinds) sources)
    (numbered : (text lines).count '\n' < Token.lastLine) :
    ∃ tokens, (Cursor.ofText (text lines)).drain = (tokens, none) ∧
      SourceLine.Reads tokens sources := by
  have fits : Place.start.Fits (text lines) := by
    change 1 + _ ≤ _
    omega
  obtain ⟨tokens, drained, kinds, -⟩ := drain_text valid fits
  rw [← kinds, List.forall₂_map_left_iff] at spelled
  exact ⟨tokens, drained, _, Token.grouped_iff.2 rfl, spelled⟩

namespace Program

variable {program : Program}

theorem exists_written {externals : List String} (sound : program.WellFormed)
    (writable : program.Writable)
    (known : ∀ instruction ∈ program.instructions, ∀ name ∈ instruction.externalCallee?,
      name ∈ externals) :
    ∃ (bodies : List (List TokenKind)) (statements : List Statement),
      List.Forall₂ (Statement.Means externals program.labels) statements
        program.instructions.toList ∧
      List.Forall₂ Statement.Spelled bodies statements ∧
      ∀ body ∈ bodies, body ≠ [] ∧ ∀ kind ∈ body, kind.Readable := by
  have each : ∀ instruction ∈ program.instructions.toList,
      ∃ written : List TokenKind × Statement,
        Statement.Means externals program.labels written.2 instruction ∧
        Statement.Spelled written.1 written.2 ∧ ∀ kind ∈ written.1, kind.Readable := by
    intro instruction member
    rw [Array.mem_toList_iff] at member
    have resolved := sound.resolved instruction member
    rw [sound.indexed] at resolved
    obtain ⟨statement, means⟩ := resolved.exists_means sound.distinct (known instruction member)
    have spellable := writable.instructions instruction member
    obtain ⟨kinds, spelled⟩ := means.exists_spelled spellable
    exact ⟨(kinds, statement), means, spelled, (means.readable_iff spelled).2 spellable⟩
  -- Tokens and statement belong together, so they are chosen as pairs and taken apart afterwards.
  obtain ⟨written, all⟩ := exists_forall₂_iff.2 each
  have both := exists_forall₂_iff.1 ⟨_, all.flip⟩
  refine ⟨written.map Prod.fst, written.map Prod.snd, ?_, ?_, ?_⟩
  · rw [List.forall₂_map_left_iff]
    exact all.flip.imp fun _ _ here => here.1
  · rw [List.forall₂_map_left_iff, List.forall₂_map_right_iff, List.forall₂_same]
    intro pair member
    obtain ⟨instruction, means, spelled, readable⟩ := both pair member
    exact spelled
  · intro body member
    obtain ⟨pair, inside, rfl⟩ := List.mem_map.1 member
    obtain ⟨instruction, means, spelled, readable⟩ := both pair inside
    exact ⟨spelled.ne_nil, readable⟩

/-- Where the external callees are known, a well-formed program that is writable is what its printed
form builds. -/
theorem of_source_render_of_writable {externals : List String} (sound : program.WellFormed)
    (writable : program.Writable)
    (known : ∀ instruction ∈ program.instructions, ∀ name ∈ instruction.externalCallee?,
      name ∈ externals.map Text.bareName)
    (numbered : program.render.toList.count '\n' < Token.lastLine) :
    ofSource externals program.render = .ok program := by
  obtain ⟨bodies, statements, means, spelled, readable⟩ := exists_written sound writable known
  have text := render_eq_text rfl (Statement.Means.render_all means spelled)
  have valid : ∀ line ∈ (List.range (program.size + 1)).flatMap
      (Layout.printedAt program.labels bodies), line.Valid := by
    intro line member
    obtain ⟨pc, -, inside⟩ := List.mem_flatMap.1 member
    exact Layout.printed_at_valid writable.labels readable pc line inside
  have lines : List.Forall₂ SourceLine.Spelled
      (((List.range (program.size + 1)).flatMap
        (Layout.printedAt program.labels bodies)).map Layout.Line.kinds)
      ((List.range (program.size + 1)).flatMap
        (SourceLine.printedAt program.labels statements)) := by
    rw [List.map_flatMap]
    refine List.rel_flatMap (List.forall₂_same.2 fun pc _ => rfl) ?_
    intro pc same equal
    cases equal
    exact Layout.printed_at_spelled spelled pc
  rw [text] at numbered
  obtain ⟨tokens, drained, reads⟩ := Layout.reads_text valid lines numbered
  rw [← text] at drained
  exact of_source_eq_ok_iff.2 ⟨tokens, drained, _, reads,
    means_printed sound.distinct writable.ordered sound.bounded sound.indexed means⟩

/-- Only writable programs are built from text. -/
theorem writable_of_source {externals : List String} {source : String}
    (built : ofSource externals source = .ok program) : program.Writable := by
  obtain ⟨tokens, drained, sources, ⟨groups, grouped, spelled⟩, means⟩ :=
    of_source_eq_ok_iff.1 built
  have readable := grouped.readable drained
  obtain ⟨bodies, bodiesSpelled, bodiesReadable⟩ := spelled.bodies readable
  refine ⟨?_, ?_, ?_⟩
  · rw [means.labels]
    exact SourceLine.definitions_from_sorted 0 sources
  · intro label member
    apply spelled.names_readable readable
    rw [← SourceLine.definitions_names, ← means.labels]
    exact List.mem_map_of_mem member
  · intro instruction member
    exact Statement.Means.writable_all means.instructions bodiesSpelled bodiesReadable instruction
      (Array.mem_toList_iff.2 member)

theorem mem_external_callees {name : String} :
    name ∈ program.externalCallees ↔
      ∃ instruction ∈ program.instructions, instruction.externalCallee? = some name := by
  rw [externalCallees, List.mem_filterMap]
  simp only [Array.mem_toList_iff]

theorem Writable.external_callee_bare (writable : program.Writable) {name : String}
    (called : name ∈ program.externalCallees) : Text.bareName name = name := by
  obtain ⟨instruction, member, external⟩ := mem_external_callees.1 called
  have spellable := writable.instructions instruction member
  cases instruction with
  | call dest callee =>
      rw [Instruction.externalCallee?] at external
      split at external
      · cases external
        exact Text.bare_name_of_identifier spellable.2.1
      · cases external
  | assign | binary | goto | branch | argument | ret | labelMarker => cases external

/-- Printing a program and building it again, with its callees without entry as externals, gives the
program back exactly if it passes its check and is writable. No other program is built from any
text. -/
theorem built_iff_check_and_writable
    (numbered : program.render.toList.count '\n' < Token.lastLine) :
    (ofSource program.externalCallees program.render = .ok program ↔
      program.check = .ok () ∧ program.Writable) ∧
    ((∃ externals source, ofSource externals source = .ok program) ↔
      program.check = .ok () ∧ program.Writable) := by
  have sound : ∀ externals source, ofSource externals source = .ok program →
      program.check = .ok () ∧ program.Writable := by
    intro externals source built
    exact ⟨check_eq_ok_iff.2 (well_formed_of_source built), writable_of_source built⟩
  have complete : program.check = .ok () ∧ program.Writable →
      ofSource program.externalCallees program.render = .ok program := by
    intro accepted
    obtain ⟨checked, writable⟩ := accepted
    refine of_source_render_of_writable (check_eq_ok_iff.1 checked) writable ?_ numbered
    intro instruction member name external
    have called := mem_external_callees.2 ⟨instruction, member, external⟩
    exact List.mem_map.2 ⟨name, called, writable.external_callee_bare called⟩
  constructor
  · exact ⟨sound _ _, complete⟩
  · constructor
    · intro built
      obtain ⟨externals, source, built⟩ := built
      exact sound externals source built
    · intro accepted
      exact ⟨_, _, complete accepted⟩

theorem mixed_built_and_writable :
    mixedProgram.render.toList.count '\n' < Token.lastLine ∧
      ofSource mixedProgram.externalCallees mixedProgram.render = .ok mixedProgram ∧
      mixedProgram.check = .ok () ∧ mixedProgram.Writable := by
  have numbered : mixedProgram.render.toList.count '\n' < Token.lastLine := by decide +kernel
  have built : ofSource mixedProgram.externalCallees mixedProgram.render = .ok mixedProgram := by
    decide +kernel
  exact ⟨numbered, built, (built_iff_check_and_writable numbered).1.1 built⟩

/-- A literal with a quote and a line break in it, as an image can hold it. -/
def quotingProgram : Program := ofParts [.assign "x" (.literal (.text "1'\n    y := '2"))] []

def requotedProgram : Program :=
  ofParts [.assign "x" (.literal (.text "1")), .assign "y" (.literal (.text "2"))] []

/-- The check, also that of an image, lets a program pass whose printed form builds another one. -/
theorem quoting_program_built_differently :
    quotingProgram.check = .ok () ∧
      Image.decode (Image.encode (.ofProgram quotingProgram [])) =
        .ok (.ofProgram quotingProgram []) ∧
      ofSource quotingProgram.externalCallees quotingProgram.render = .ok requotedProgram ∧
      requotedProgram ≠ quotingProgram ∧ ¬ quotingProgram.Writable := by
  decide +kernel

end Program

end ThreeAddress
