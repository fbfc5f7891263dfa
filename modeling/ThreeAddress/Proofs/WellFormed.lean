import ThreeAddress.Proofs.Meaning

/-!
Well-formed programs. The check of a program finds no defect exactly when the program is well formed,
and what source lines mean is always a well-formed program.
-/

namespace ThreeAddress.Program

variable {program : Program}

theorem label_defect_eq_none_iff {seen : List String} {labels : List (String × Nat)} :
    program.labelDefect? seen labels = none ↔
      (∀ label ∈ labels, label.1 ∉ seen ∧ program.label? label.1 = some label.2 ∧
        label.2 ≤ program.size) ∧ (labels.map Prod.fst).Nodup := by
  induction labels generalizing seen with
  | nil => simp [labelDefect?]
  | cons label labels induction =>
      obtain ⟨name, pc⟩ := label
      rw [labelDefect?]
      split
      · rename_i mismatch
        simp only [Bool.or_eq_true, List.contains_iff_mem, bne_iff_ne] at mismatch
        simp only [List.forall_mem_cons, reduceCtorEq, false_iff]
        rintro ⟨⟨⟨fresh, found, -⟩, -⟩, -⟩
        exact mismatch.elim fresh fun different => different found
      · rename_i agrees
        simp only [Bool.or_eq_true, List.contains_iff_mem, bne_iff_ne, not_or, not_not] at agrees
        split
        · rename_i outside
          simp only [List.forall_mem_cons, reduceCtorEq, false_iff]
          rintro ⟨⟨⟨-, -, inside⟩, -⟩, -⟩
          omega
        · rename_i inside
          have bounded : pc ≤ program.size := Nat.not_lt.1 inside
          rw [induction, List.forall_mem_cons, List.map_cons, List.nodup_cons, List.mem_map]
          constructor
          · rintro ⟨others, distinct⟩
            refine ⟨⟨⟨agrees.1, agrees.2, bounded⟩, fun label member => ?_⟩, ?_, distinct⟩
            · obtain ⟨fresh, held⟩ := others label member
              exact ⟨fun old => fresh (List.mem_cons_of_mem _ old), held⟩
            · rintro ⟨label, member, same⟩
              exact (others label member).1 (same ▸ List.mem_cons_self)
          · rintro ⟨⟨-, others⟩, fresh, distinct⟩
            refine ⟨fun label member => ⟨?_, (others label member).2⟩, distinct⟩
            intro repeated
            rcases List.mem_cons.1 repeated with same | old
            · exact fresh ⟨label, member, same⟩
            · exact (others label member).1 old

theorem stray_label_eq_none_iff :
    program.strayLabel? = none ↔
      ∀ name pc, program.label? name = some pc → name ∈ program.labels.map Prod.fst := by
  simp only [strayLabel?, Option.map_eq_none_iff, List.find?_eq_none, Bool.not_eq_true',
    Bool.not_eq_false, List.contains_iff_mem, NameMap.names, List.forall_mem_map, label?,
    NameMap.find_eq_some_iff, Prod.forall]

theorem instruction_defect_eq_none_iff {pc : Nat} {instruction : Instruction} :
    program.instructionDefect? pc instruction = none ↔
      instruction.Resolved program.labelIndex := by
  cases instruction with
  | assign | binary | argument | ret => simp [instructionDefect?, Instruction.Resolved]
  | goto target | branch polarity condition target =>
      simp [instructionDefect?, Instruction.Resolved, targetResolves, label?]
  | call dest callee =>
      simp only [instructionDefect?, Instruction.Resolved, calleeResolves, label?, ite_eq_left_iff,
        reduceCtorEq, imp_false, not_not, Bool.and_eq_true, beq_iff_eq, Bool.or_eq_true]
      cases program.labelIndex.find? callee.name <;> simp
  | labelMarker name => simp [instructionDefect?, Instruction.Resolved]

/-- The labels are indexed as they are listed, and nothing else is indexed. -/
theorem indexed_iff (distinct : (program.labels.map Prod.fst).Nodup) :
    program.labelIndex = .ofList program.labels ↔
      (∀ label ∈ program.labels, program.label? label.1 = some label.2) ∧
        ∀ name pc, program.label? name = some pc → name ∈ program.labels.map Prod.fst := by
  constructor
  · intro indexed
    simp only [label?, indexed, NameMap.find_of_list_eq_some_iff _ distinct]
    exact ⟨fun label member => member, fun name pc member => List.mem_map_of_mem member⟩
  · rintro ⟨listed, covered⟩
    apply NameMap.ext_find
    intro name
    cases found : program.labelIndex.find? name with
    | none =>
        symm
        rw [NameMap.find_of_list_eq_none_iff _ distinct]
        intro member
        obtain ⟨label, inside, rfl⟩ := List.mem_map.1 member
        rw [← label?, listed label inside] at found
        cases found
    | some pc =>
        symm
        rw [NameMap.find_of_list_eq_some_iff _ distinct]
        obtain ⟨label, inside, rfl⟩ := List.mem_map.1 (covered name pc found)
        have same := listed label inside
        rw [label?, found, Option.some.injEq] at same
        rw [same]
        exact inside

theorem defect_eq_none_iff : program.defect? = none ↔ program.WellFormed := by
  have instructions : (∀ instruction pc, (instruction, pc) ∈ program.instructions.toList.zipIdx →
      instruction.Resolved program.labelIndex) ↔
      ∀ instruction ∈ program.instructions, instruction.Resolved program.labelIndex := by
    constructor
    · intro resolved instruction member
      obtain ⟨pc, found⟩ := List.getElem?_of_mem (Array.mem_toList_iff.2 member)
      exact resolved instruction pc (List.mem_zipIdx_iff_getElem?.2 found)
    · intro resolved instruction pc inside
      exact resolved instruction (Array.mem_toList_iff.1 (List.fst_mem_of_mem_zipIdx inside))
  rw [defect?, Option.or_eq_none_iff, Option.or_eq_none_iff, List.findSome?_eq_none_iff, Prod.forall,
    label_defect_eq_none_iff, stray_label_eq_none_iff]
  simp only [instruction_defect_eq_none_iff, instructions]
  constructor
  · rintro ⟨⟨labels, distinct⟩, covered, resolved⟩
    have listed : ∀ label ∈ program.labels, program.label? label.1 = some label.2 :=
      fun label member => (labels label member).2.1
    exact ⟨distinct, (indexed_iff distinct).2 ⟨listed, covered⟩,
      fun label member => (labels label member).2.2, resolved⟩
  · intro sound
    obtain ⟨listed, covered⟩ := (indexed_iff sound.distinct).1 sound.indexed
    refine ⟨⟨fun label member => ?_, sound.distinct⟩, covered, sound.resolved⟩
    exact ⟨List.not_mem_nil, listed label member, sound.bounded label member⟩

/-- The check passes exactly on well-formed programs. -/
theorem check_eq_ok_iff : program.check = .ok () ↔ program.WellFormed := by
  rw [← defect_eq_none_iff, check]
  cases program.defect? <;> simp

end ThreeAddress.Program

namespace ThreeAddress

theorem Program.WellFormed.label_eq_some_iff {program : Program} (sound : program.WellFormed)
    {name : String} {pc : Nat} :
    program.label? name = some pc ↔ (name, pc) ∈ program.labels := by
  rw [Program.label?, sound.indexed]
  exact NameMap.find_of_list_eq_some_iff _ sound.distinct

theorem Statement.Means.resolved {externals : List String} {definitions : List (String × Nat)}
    {statement : Statement} {instruction : Instruction}
    (distinct : (definitions.map Prod.fst).Nodup)
    (means : Means externals definitions statement instruction) :
    instruction.Resolved (.ofList definitions) := by
  cases means with
  | assign | binary | argument | ret => trivial
  | goto global defined => exact (NameMap.find_of_list_eq_some_iff _ distinct).2 defined
  | branch polarity condition global defined =>
      exact (NameMap.find_of_list_eq_some_iff _ distinct).2 defined
  | call dest global defined =>
      have found := (NameMap.find_of_list_eq_some_iff _ distinct).2 defined
      simp [Instruction.Resolved, found]
  | callExternal dest undefined known =>
      have missing := (NameMap.find_of_list_eq_none_iff _ distinct).2 undefined
      simp [Instruction.Resolved, missing]

theorem Program.Means.well_formed {externals : List String} {sources : List SourceLine}
    {program : Program} (means : Means externals sources program) : program.WellFormed := by
  have distinct : (program.labels.map Prod.fst).Nodup := by
    rw [means.labels, SourceLine.definitions_names]
    exact means.distinct
  refine ⟨distinct, means.indexed, ?_, ?_⟩
  · intro label member
    rw [means.labels] at member
    rw [means.size_eq]
    simpa using (SourceLine.definitions_from_bounds member).2
  · intro instruction member
    obtain ⟨pc, found⟩ := Array.getElem?_of_mem member
    have fetched := means.fetch pc
    rw [get?, found] at fetched
    generalize (SourceLine.statements sources)[pc]? = statement at fetched
    cases fetched with
    | some meant =>
        rw [← means.labels] at meant
        rw [means.indexed]
        exact meant.resolved distinct

theorem Instruction.all_resolved_iff {labels : NameMap Nat} {instructions : Array Instruction} :
    (∀ instruction ∈ instructions, instruction.Resolved labels) ↔
      (∀ name, .labelMarker name ∉ instructions) ∧
      (∀ target, .goto target ∈ instructions → labels.find? target.name = some target.pc) ∧
      (∀ polarity condition target, .branch polarity condition target ∈ instructions →
        labels.find? target.name = some target.pc) ∧
      ∀ dest callee, .call dest callee ∈ instructions →
        callee.entry = labels.find? callee.name ∧
          (labels.find? callee.name = none → callee.global = true) := by
  constructor
  · intro resolved
    exact ⟨fun name member => resolved _ member, fun target member => resolved _ member,
      fun polarity condition target member => resolved _ member,
      fun dest callee member => resolved _ member⟩
  · intro kinds instruction member
    obtain ⟨markers, jumps, branches, calls⟩ := kinds
    cases instruction with
    | assign | binary | argument | ret => trivial
    | goto target => exact jumps target member
    | branch polarity condition target => exact branches polarity condition target member
    | call dest callee => exact calls dest callee member
    | labelMarker name => exact markers name member

namespace Program

/-- The check passes exactly on programs whose labels are distinct, indexed as they are listed and
inside the program or at its end, and whose instructions refer to labels as the index has them; and
whatever tokens assemble into passes it. -/
theorem check_decides_consistency (program : Program) :
    (program.check = .ok () ↔
      (program.labels.map Prod.fst).Nodup ∧
      (∀ name pc, program.label? name = some pc ↔ (name, pc) ∈ program.labels) ∧
      (∀ label ∈ program.labels, label.2 ≤ program.size) ∧
      (∀ name, .labelMarker name ∉ program.instructions) ∧
      (∀ target, .goto target ∈ program.instructions →
        program.label? target.name = some target.pc) ∧
      (∀ polarity condition target, .branch polarity condition target ∈ program.instructions →
        program.label? target.name = some target.pc) ∧
      ∀ dest callee, .call dest callee ∈ program.instructions →
        callee.entry = program.label? callee.name ∧
          (program.label? callee.name = none → callee.global = true)) ∧
    ∀ externals tokens, ofTokens externals tokens = .ok program → program.check = .ok () := by
  constructor
  · rw [check_eq_ok_iff]
    constructor
    · intro sound
      exact ⟨sound.distinct, fun name pc => sound.label_eq_some_iff, sound.bounded,
        Instruction.all_resolved_iff.1 sound.resolved⟩
    · rintro ⟨distinct, indexed, bounded, resolved⟩
      refine ⟨distinct, ?_, bounded, Instruction.all_resolved_iff.2 resolved⟩
      refine (indexed_iff distinct).2 ⟨fun label member => (indexed _ _).2 member, ?_⟩
      intro name pc found
      exact List.mem_map_of_mem ((indexed name pc).1 found)
  · intro externals tokens assembled
    obtain ⟨sources, -, means⟩ := of_tokens_eq_ok_iff.1 assembled
    exact check_eq_ok_iff.2 means.well_formed

/-- Tokens that no text has: their names are no identifiers and their lines go backwards. -/
def strangeTokens : List Token :=
  [⟨.label "@a b", ⟨0, 0, 9, 1⟩⟩, ⟨.keyword .call, ⟨0, 0, 9, 1⟩⟩, ⟨.globalRef "min", ⟨0, 0, 9, 1⟩⟩,
    ⟨.keyword .ifz, ⟨0, 0, 4, 1⟩⟩, ⟨.string "\n", ⟨0, 0, 4, 1⟩⟩, ⟨.keyword .goto, ⟨0, 0, 5, 1⟩⟩,
    ⟨.globalRef "@a b", ⟨0, 0, 5, 1⟩⟩, ⟨.label "", ⟨0, 0, 2, 1⟩⟩]

def strangeProgram : Program :=
  .ofParts
    [.call none ⟨"min", true, none⟩, .branch .ifZero (.literal (.text "\n")) ⟨"@a b", true, 0⟩]
    [("@a b", 0), ("", 2)]

theorem strange_tokens_pass_check :
    ofTokens ["@min"] strangeTokens = .ok strangeProgram ∧ strangeProgram.check = .ok () := by
  have assembled : ofTokens ["@min"] strangeTokens = .ok strangeProgram := by decide +kernel
  exact ⟨assembled, (check_decides_consistency strangeProgram).2 _ _ assembled⟩

end Program

end ThreeAddress
