import ThreeAddress.Proofs.Grammar

/-!
The meaning of source lines as a program. A label stands for the number of statements before it, a
jump goes to a label, and a call goes to a label or to an external that is written as a global. The
assembler succeeds exactly on grammatical tokens with distinct labels and known targets, and then
gives the program that the lines mean.
-/

namespace ThreeAddress

namespace NameMap

variable {α : Type}

theorem find_insert_pairs_of_not_mem (pairs : List (String × α)) (map : NameMap α) {key : String}
    (absent : key ∉ pairs.map Prod.fst) :
    (pairs.foldl (fun map pair => map.insert pair.1 pair.2) map).find? key = map.find? key := by
  induction pairs generalizing map with
  | nil => rfl
  | cons pair pairs induction =>
      rw [List.map_cons, List.mem_cons, not_or] at absent
      rw [List.foldl_cons, induction _ absent.2, find_insert_of_ne _ _ absent.1]

theorem find_insert_pairs_of_mem (pairs : List (String × α)) (map : NameMap α) {key : String}
    {value : α} (distinct : (pairs.map Prod.fst).Nodup) (member : (key, value) ∈ pairs) :
    (pairs.foldl (fun map pair => map.insert pair.1 pair.2) map).find? key = some value := by
  induction pairs generalizing map with
  | nil => cases member
  | cons pair pairs induction =>
      rw [List.map_cons, List.nodup_cons] at distinct
      rw [List.foldl_cons]
      rcases List.mem_cons.1 member with rfl | later
      · rw [find_insert_pairs_of_not_mem _ _ distinct.1, find_insert_self]
      · exact induction _ distinct.2 later

theorem find_of_list_eq_none_iff (pairs : List (String × α)) {key : String}
    (distinct : (pairs.map Prod.fst).Nodup) :
    (ofList pairs).find? key = none ↔ key ∉ pairs.map Prod.fst := by
  constructor
  · intro missing inside
    obtain ⟨⟨name, value⟩, member, rfl⟩ := List.mem_map.1 inside
    rw [ofList, find_insert_pairs_of_mem pairs empty distinct member] at missing
    cases missing
  · intro absent
    rw [ofList, find_insert_pairs_of_not_mem pairs empty absent, find_empty]

theorem find_of_list_eq_some_iff (pairs : List (String × α)) {key : String} {value : α}
    (distinct : (pairs.map Prod.fst).Nodup) :
    (ofList pairs).find? key = some value ↔ (key, value) ∈ pairs := by
  constructor
  · intro found
    have inside : key ∈ pairs.map Prod.fst := by
      by_contra absent
      rw [(find_of_list_eq_none_iff pairs distinct).2 absent] at found
      cases found
    obtain ⟨⟨name, held⟩, member, rfl⟩ := List.mem_map.1 inside
    rw [ofList, find_insert_pairs_of_mem pairs empty distinct member] at found
    cases found
    exact member
  · exact find_insert_pairs_of_mem pairs empty distinct

end NameMap

inductive Statement.Means (externals : List String) (definitions : List (String × Nat)) :
    Statement → Instruction → Prop where
  | assign (dest : String) (value : Operand) : Means externals definitions
      (.assign dest value) (.assign dest value)
  | binary (dest : String) (left : Operand) (operator : BinaryOperator) (right : Operand) :
      Means externals definitions (.binary dest left operator right)
        (.binary dest left operator right)
  | goto {name : String} {pc : Nat} (global : Bool) (defined : (name, pc) ∈ definitions) :
      Means externals definitions (.goto ⟨name, global⟩) (.goto ⟨name, global, pc⟩)
  | branch {name : String} {pc : Nat} (polarity : Polarity) (condition : Operand) (global : Bool)
      (defined : (name, pc) ∈ definitions) :
      Means externals definitions (.branch polarity condition ⟨name, global⟩)
        (.branch polarity condition ⟨name, global, pc⟩)
  | argument (value : Operand) : Means externals definitions (.argument value) (.argument value)
  | call {name : String} {pc : Nat} (dest : Option String) (global : Bool)
      (defined : (name, pc) ∈ definitions) :
      Means externals definitions (.call dest ⟨name, global⟩) (.call dest ⟨name, global, some pc⟩)
  | callExternal {name : String} (dest : Option String)
      (undefined : name ∉ definitions.map Prod.fst) (known : name ∈ externals) :
      Means externals definitions (.call dest ⟨name, true⟩) (.call dest ⟨name, true, none⟩)
  | ret (value : Option Operand) : Means externals definitions (.ret value) (.ret value)

def Statement.Resolvable (externals names : List String) : Statement → Prop
  | .goto target | .branch _ _ target => target.name ∈ names
  | .call _ callee => callee.name ∈ names ∨ callee.global = true ∧ callee.name ∈ externals
  | .assign .. | .binary .. | .argument _ | .ret _ => True

namespace Statement

variable {externals : List String} {definitions : List (String × Nat)}

theorem resolve_target_eq_ok_iff {reference : Reference} {target : Target}
    (distinct : (definitions.map Prod.fst).Nodup) :
    resolveTarget (.ofList definitions) reference = .ok target ↔
      (reference.name, target.pc) ∈ definitions ∧
        target = ⟨reference.name, reference.global, target.pc⟩ := by
  unfold resolveTarget
  split
  · rename_i pc found
    have member := (NameMap.find_of_list_eq_some_iff _ distinct).1 found
    constructor
    · intro resolved
      cases resolved
      exact ⟨member, rfl⟩
    · rintro ⟨defined, same⟩
      have agree := (NameMap.find_of_list_eq_some_iff _ distinct).2 defined
      rw [found, Option.some.injEq] at agree
      rw [same, agree]
  · rename_i missing
    refine ⟨nofun, ?_⟩
    rintro ⟨defined, -⟩
    rw [(NameMap.find_of_list_eq_some_iff _ distinct).2 defined] at missing
    cases missing

theorem resolve_eq_ok_iff {statement : Statement} {instruction : Instruction}
    (distinct : (definitions.map Prod.fst).Nodup) :
    statement.resolve externals (.ofList definitions) = .ok instruction ↔
      Means externals definitions statement instruction := by
  constructor
  · intro resolved
    cases statement with
    | assign dest value =>
        cases resolved
        exact .assign dest value
    | binary dest left operator right =>
        cases resolved
        exact .binary dest left operator right
    | goto reference =>
        obtain ⟨target, found, finished⟩ := except_bind_eq_ok.1 resolved
        obtain ⟨defined, same⟩ := (resolve_target_eq_ok_iff distinct).1 found
        cases finished
        rw [same]
        exact .goto reference.global defined
    | branch polarity condition reference =>
        obtain ⟨target, found, finished⟩ := except_bind_eq_ok.1 resolved
        obtain ⟨defined, same⟩ := (resolve_target_eq_ok_iff distinct).1 found
        cases finished
        rw [same]
        exact .branch polarity condition reference.global defined
    | argument value =>
        cases resolved
        exact .argument value
    | call dest reference =>
        obtain ⟨callee, found, finished⟩ := except_bind_eq_ok.1 resolved
        cases finished
        unfold resolveCallee at found
        split at found
        · rename_i pc known
          cases found
          exact .call dest _ ((NameMap.find_of_list_eq_some_iff _ distinct).1 known)
        · rename_i missing
          split at found
          · rename_i external
            cases found
            rw [Bool.and_eq_true, List.contains_iff_mem] at external
            rw [external.1]
            obtain ⟨name, global⟩ := reference
            cases external.1
            exact .callExternal dest ((NameMap.find_of_list_eq_none_iff _ distinct).1 missing)
              external.2
          · cases found
    | ret value =>
        cases resolved
        exact .ret value
  · intro means
    cases means with
    | assign dest value => rfl
    | binary dest left operator right => rfl
    | goto global defined =>
        exact except_bind_eq_ok.2 ⟨_, (resolve_target_eq_ok_iff distinct).2 ⟨defined, rfl⟩, rfl⟩
    | branch polarity condition global defined =>
        exact except_bind_eq_ok.2 ⟨_, (resolve_target_eq_ok_iff distinct).2 ⟨defined, rfl⟩, rfl⟩
    | argument value => rfl
    | call dest global defined =>
        refine except_bind_eq_ok.2 ⟨_, ?_, rfl⟩
        rw [resolveCallee, (NameMap.find_of_list_eq_some_iff _ distinct).2 defined]
    | callExternal dest undefined known =>
        refine except_bind_eq_ok.2 ⟨_, ?_, rfl⟩
        rw [resolveCallee, (NameMap.find_of_list_eq_none_iff _ distinct).2 undefined]
        simp [known]
    | ret value => rfl

theorem exists_means_iff_resolvable {statement : Statement} :
    (∃ instruction, Means externals definitions statement instruction) ↔
      statement.Resolvable externals (definitions.map Prod.fst) := by
  constructor
  · rintro ⟨instruction, means⟩
    cases means with
    | assign | binary | argument | ret => trivial
    | goto global defined => exact List.mem_map_of_mem defined
    | branch polarity condition global defined => exact List.mem_map_of_mem defined
    | call dest global defined => exact .inl (List.mem_map_of_mem defined)
    | callExternal dest undefined known => exact .inr ⟨rfl, known⟩
  · intro resolvable
    cases statement with
    | assign dest value => exact ⟨_, .assign dest value⟩
    | binary dest left operator right => exact ⟨_, .binary dest left operator right⟩
    | goto target =>
        obtain ⟨⟨name, pc⟩, defined, rfl⟩ := List.mem_map.1 resolvable
        exact ⟨_, .goto target.global defined⟩
    | branch polarity condition target =>
        obtain ⟨⟨name, pc⟩, defined, rfl⟩ := List.mem_map.1 resolvable
        exact ⟨_, .branch polarity condition target.global defined⟩
    | argument value => exact ⟨_, .argument value⟩
    | call dest callee =>
        by_cases defined : callee.name ∈ definitions.map Prod.fst
        · obtain ⟨⟨name, pc⟩, member, rfl⟩ := List.mem_map.1 defined
          exact ⟨_, .call dest callee.global member⟩
        · obtain ⟨global, known⟩ := resolvable.resolve_left defined
          obtain ⟨name, written⟩ := callee
          cases global
          exact ⟨_, .callExternal dest defined known⟩
    | ret value => exact ⟨_, .ret value⟩

theorem resolve_all_eq_ok_iff {labels : NameMap Nat} {drafted : List (Statement × Nat)}
    {instructions : List Instruction} :
    resolveAll externals labels drafted = .ok instructions ↔
      List.Forall₂ (fun statement instruction => statement.resolve externals labels = .ok instruction)
        (drafted.map Prod.fst) instructions := by
  induction drafted generalizing instructions with
  | nil =>
      constructor
      · intro finished
        cases finished
        exact .nil
      · intro resolved
        cases resolved
        rfl
  | cons draft drafted induction =>
      rw [resolveAll]
      constructor
      · intro finished
        split at finished
        · cases finished
        · rename_i instruction resolved
          obtain ⟨later, others, completed⟩ := except_bind_eq_ok.1 finished
          cases completed
          exact .cons resolved (induction.1 others)
      · intro resolved
        cases resolved with
        | cons first others =>
            rw [first]
            exact except_bind_eq_ok.2 ⟨_, induction.2 others, rfl⟩

end Statement

theorem exists_forall₂_iff {α β : Type} {related : α → β → Prop} {left : List α} :
    (∃ right, List.Forall₂ related left right) ↔ ∀ first ∈ left, ∃ second, related first second := by
  constructor
  · intro matched
    obtain ⟨right, all⟩ := matched
    induction all with
    | nil => simp
    | @cons first second left right here there induction =>
        exact List.forall_mem_cons.2 ⟨⟨second, here⟩, induction⟩
  · intro each
    induction left with
    | nil => exact ⟨[], .nil⟩
    | cons first left induction =>
        obtain ⟨⟨second, here⟩, others⟩ := List.forall_mem_cons.1 each
        obtain ⟨right, there⟩ := induction others
        exact ⟨second :: right, .cons here there⟩

theorem forall₂_get {α β : Type} {related : α → β → Prop} {left : List α} {right : List β}
    (matched : List.Forall₂ related left right) (index : Nat) :
    Option.Rel related left[index]? right[index]? := by
  induction matched generalizing index with
  | nil => exact .none
  | cons here there induction =>
      cases index with
      | zero => exact .some here
      | succ index => exact induction index

namespace Draft

theorem labels_from_append (pc : Nat) (first second : List Draft) :
    labelsFrom pc (first ++ second) =
      labelsFrom pc first ++ labelsFrom (pc + (statements first).length) second := by
  induction first generalizing pc with
  | nil => rfl
  | cons draft first induction =>
      cases draft with
      | label name =>
          rw [List.cons_append, labelsFrom, labelsFrom, statements, induction, List.cons_append]
      | statement body line =>
          rw [List.cons_append, labelsFrom, labelsFrom, statements, induction, List.length_cons,
            Nat.add_assoc, Nat.add_comm 1]

theorem statements_append (first second : List Draft) :
    statements (first ++ second) = statements first ++ statements second := by
  induction first with
  | nil => rfl
  | cons draft first induction =>
      cases draft with
      | label name => rw [List.cons_append, statements, statements, induction]
      | statement body line => rw [List.cons_append, statements, statements, induction,
          List.cons_append]

theorem labels_from_labels (pc : Nat) (names : List String) :
    labelsFrom pc (names.map .label) = names.map (·, pc) := by
  induction names with
  | nil => rfl
  | cons name names induction => rw [List.map_cons, labelsFrom, induction, List.map_cons]

theorem statements_labels (names : List String) : statements (names.map .label) = [] := by
  induction names with
  | nil => rfl
  | cons name names induction => rw [List.map_cons, statements, induction]

end Draft

namespace SourceLine

/-- The labels of the lines, each at the number of statements before it, where `pc` statements have
come before the lines. -/
def definitionsFrom (pc : Nat) : List SourceLine → List (String × Nat)
  | [] => []
  | source :: rest =>
      source.labels.map (·, pc) ++ definitionsFrom (pc + source.statement.toList.length) rest

def definitions (sources : List SourceLine) : List (String × Nat) := definitionsFrom 0 sources

theorem definitions_from_names (pc : Nat) (sources : List SourceLine) :
    (definitionsFrom pc sources).map Prod.fst = names sources := by
  induction sources generalizing pc with
  | nil => rfl
  | cons source sources induction =>
      have labels : (source.labels.map (·, pc)).map Prod.fst = source.labels := by
        rw [List.map_map]
        exact List.map_id _
      rw [definitionsFrom, List.map_append, induction, labels]
      rfl

theorem definitions_names (sources : List SourceLine) :
    (definitions sources).map Prod.fst = names sources := definitions_from_names 0 sources

theorem name_mem_of_defined {sources : List SourceLine} {name : String} {pc : Nat}
    (defined : (name, pc) ∈ definitions sources) : name ∈ names sources := by
  rw [← definitions_names]
  exact List.mem_map_of_mem defined

theorem statements_append (first second : List SourceLine) :
    statements (first ++ second) = statements first ++ statements second := List.filterMap_append

theorem statements_cons (source : SourceLine) (sources : List SourceLine) :
    statements (source :: sources) = source.statement.toList ++ statements sources := by
  rw [statements, List.filterMap_cons]
  cases source.statement with
  | none => rfl
  | some body => rfl

theorem definitions_from_append (pc : Nat) (first second : List SourceLine) :
    definitionsFrom pc (first ++ second) =
      definitionsFrom pc first ++ definitionsFrom (pc + (statements first).length) second := by
  induction first generalizing pc with
  | nil => rfl
  | cons source first induction =>
      rw [List.cons_append, definitionsFrom, induction, definitionsFrom, statements_cons,
        List.length_append, List.append_assoc, Nat.add_assoc]

theorem definitions_from_bounds {pc : Nat} {sources : List SourceLine} {label : String × Nat}
    (member : label ∈ definitionsFrom pc sources) :
    pc ≤ label.2 ∧ label.2 ≤ pc + (statements sources).length := by
  induction sources generalizing pc with
  | nil => cases member
  | cons source sources induction =>
      rw [definitionsFrom] at member
      rw [statements_cons, List.length_append]
      rcases List.mem_append.1 member with here | there
      · obtain ⟨name, -, rfl⟩ := List.mem_map.1 here
        dsimp only
        omega
      · have bounds := induction there
        omega

theorem definitions_from_sorted (pc : Nat) (sources : List SourceLine) :
    (definitionsFrom pc sources).Pairwise fun left right => left.2 ≤ right.2 := by
  induction sources generalizing pc with
  | nil => exact .nil
  | cons source sources induction =>
      refine List.pairwise_append.2 ⟨?_, induction _, ?_⟩
      · apply List.pairwise_of_forall_mem_list
        intro left first right second
        obtain ⟨name, -, rfl⟩ := List.mem_map.1 first
        obtain ⟨other, -, rfl⟩ := List.mem_map.1 second
        exact Nat.le_refl pc
      · intro left here right there
        obtain ⟨name, -, rfl⟩ := List.mem_map.1 here
        have bounds := definitions_from_bounds there
        dsimp only
        omega

theorem labels_from_drafts (pc line : Nat) (source : SourceLine) :
    Draft.labelsFrom pc (source.drafts line) = source.labels.map (·, pc) := by
  rw [drafts, Draft.labels_from_append, Draft.labels_from_labels]
  cases source.statement with
  | none => exact List.append_nil _
  | some body => exact List.append_nil _

theorem drafted_statements (line : Nat) (source : SourceLine) :
    Draft.statements (source.drafts line) = source.statement.toList.map (·, line) := by
  rw [drafts, Draft.statements_append, Draft.statements_labels, List.nil_append]
  cases source.statement with
  | none => rfl
  | some body => rfl

theorem statements_drafts (line : Nat) (source : SourceLine) :
    (Draft.statements (source.drafts line)).map Prod.fst = source.statement.toList := by
  rw [drafted_statements, List.map_map]
  exact List.map_id _

theorem labels_from_drafts_of {groups : List (List Token)} {sources : List SourceLine}
    (spelled : SpelledBy groups sources) (pc : Nat) :
    Draft.labelsFrom pc (draftsOf groups sources) = definitionsFrom pc sources := by
  induction spelled generalizing pc with
  | nil => rfl
  | @cons group source groups sources here there induction =>
      have count := congrArg List.length
        (statements_drafts (group.head?.elim 0 Token.line) source)
      rw [List.length_map] at count
      rw [draftsOf, List.zipWith_cons_cons, List.flatten_cons, Draft.labels_from_append,
        labels_from_drafts, count, definitionsFrom]
      exact congrArg _ (induction _)

theorem statements_drafts_of {groups : List (List Token)} {sources : List SourceLine}
    (spelled : SpelledBy groups sources) :
    (Draft.statements (draftsOf groups sources)).map Prod.fst = statements sources := by
  induction spelled with
  | nil => rfl
  | @cons group source groups sources here there induction =>
      rw [draftsOf, List.zipWith_cons_cons, List.flatten_cons, Draft.statements_append,
        List.map_append, statements_drafts]
      rw [draftsOf] at induction
      rw [induction, statements_cons]

end SourceLine

theorem tokenize_eq_ok_iff {source : String} {tokens : List Token} :
    tokenize source = .ok tokens ↔ (Cursor.ofText source.toList).drain = (tokens, none) := by
  rw [tokenize]
  split
  · rename_i found drained
    rw [drained, Except.ok.injEq, Prod.mk.injEq]
    exact ⟨fun same => ⟨same, rfl⟩, fun same => same.1⟩
  · rename_i drained
    rw [drained]
    exact ⟨nofun, nofun⟩

structure Program.Means (externals : List String) (sources : List SourceLine) (program : Program) :
    Prop where
  distinct : (SourceLine.names sources).Nodup
  labels : program.labels = SourceLine.definitions sources
  indexed : program.labelIndex = .ofList program.labels
  instructions : List.Forall₂ (Statement.Means externals (SourceLine.definitions sources))
    (SourceLine.statements sources) program.instructions.toList

namespace Program

theorem of_tokens_eq_ok_iff {externals : List String} {tokens : List Token} {program : Program} :
    ofTokens externals tokens = .ok program ↔
      ∃ sources, SourceLine.Reads tokens sources ∧
        Means (externals.map Text.bareName) sources program := by
  constructor
  · intro assembled
    obtain ⟨drafts, drafted, completed⟩ := except_bind_eq_ok.1 assembled
    obtain ⟨sources, spelled, rfl, distinct, -⟩ := SourceLine.of_lines_eq_ok_iff.1 drafted
    obtain ⟨instructions, resolved, finished⟩ := except_bind_eq_ok.1 completed
    rw [SourceLine.labels_from_drafts_of spelled] at resolved
    have names : ((SourceLine.definitions sources).map Prod.fst).Nodup := by
      rw [SourceLine.definitions_names]
      exact distinct
    have meanings := Statement.resolve_all_eq_ok_iff.1 resolved
    rw [SourceLine.statements_drafts_of spelled] at meanings
    cases finished
    refine ⟨sources, ⟨_, Token.grouped_iff.2 rfl, spelled⟩, distinct, ?_, rfl, ?_⟩
    · exact SourceLine.labels_from_drafts_of spelled 0
    · refine meanings.imp ?_
      intro statement instruction resolved
      exact (Statement.resolve_eq_ok_iff names).1 resolved
  · intro grammatical
    obtain ⟨sources, ⟨groups, grouped, spelled⟩, distinct, labels, indexed, meanings⟩ := grammatical
    have names : ((SourceLine.definitions sources).map Prod.fst).Nodup := by
      rw [SourceLine.definitions_names]
      exact distinct
    have drafted : Draft.ofTokens tokens = .ok (SourceLine.draftsOf groups sources) := by
      rw [Draft.ofTokens, Token.grouped_iff.1 grouped]
      exact SourceLine.of_lines_eq_ok_iff.2
        ⟨sources, spelled, rfl, distinct, fun name member => NameMap.find_empty name⟩
    refine except_bind_eq_ok.2 ⟨_, drafted, except_bind_eq_ok.2 ⟨program.instructions.toList, ?_, ?_⟩⟩
    · rw [SourceLine.labels_from_drafts_of spelled, Statement.resolve_all_eq_ok_iff,
        SourceLine.statements_drafts_of spelled]
      refine meanings.imp ?_
      intro statement instruction means
      exact (Statement.resolve_eq_ok_iff names).2 means
    · rw [SourceLine.labels_from_drafts_of spelled]
      obtain ⟨instructions, list, index⟩ := program
      have sameLabels : list = SourceLine.definitionsFrom 0 sources := labels
      have sameIndex : index = .ofList list := indexed
      rw [sameIndex, sameLabels]
      rfl

theorem Means.size_eq {externals : List String} {sources : List SourceLine} {program : Program}
    (means : Means externals sources program) :
    program.size = (SourceLine.statements sources).length := by
  rw [means.instructions.length_eq, Array.length_toList]
  rfl

theorem of_source_eq_ok_iff {externals : List String} {source : String} {program : Program} :
    ofSource externals source = .ok program ↔
      ∃ tokens, (Cursor.ofText source.toList).drain = (tokens, none) ∧
        ∃ sources, SourceLine.Reads tokens sources ∧
          Means (externals.map Text.bareName) sources program := by
  rw [ofSource, except_bind_eq_ok]
  exact exists_congr fun tokens => and_congr tokenize_eq_ok_iff of_tokens_eq_ok_iff

theorem exists_means_iff {externals : List String} {sources : List SourceLine} :
    (∃ program, Means externals sources program) ↔
      (SourceLine.names sources).Nodup ∧ ∀ statement ∈ SourceLine.statements sources,
        statement.Resolvable externals (SourceLine.names sources) := by
  have resolvable : (∃ instructions, List.Forall₂ (Statement.Means externals
      (SourceLine.definitions sources)) (SourceLine.statements sources) instructions) ↔
      ∀ statement ∈ SourceLine.statements sources,
        statement.Resolvable externals (SourceLine.names sources) := by
    rw [exists_forall₂_iff, ← SourceLine.definitions_names]
    exact forall₂_congr fun statement member => Statement.exists_means_iff_resolvable
  rw [← resolvable]
  constructor
  · intro meant
    obtain ⟨program, means⟩ := meant
    exact ⟨means.distinct, program.instructions.toList, means.instructions⟩
  · intro conditions
    obtain ⟨distinct, instructions, meanings⟩ := conditions
    exact ⟨ofParts instructions (SourceLine.definitions sources), distinct, rfl, rfl, meanings⟩

namespace Means

variable {externals : List String} {sources : List SourceLine} {program : Program}

theorem fetch (means : Means externals sources program) (pc : Nat) :
    Option.Rel (Statement.Means externals (SourceLine.definitions sources))
      (SourceLine.statements sources)[pc]? (program.get? pc) := by
  have same : program.get? pc = program.instructions.toList[pc]? := by
    rw [Array.getElem?_toList]
    rfl
  rw [same]
  exact forall₂_get means.instructions pc

theorem label_eq_some_iff (means : Means externals sources program) {name : String} {pc : Nat} :
    program.label? name = some pc ↔ (name, pc) ∈ SourceLine.definitions sources := by
  have distinct : ((SourceLine.definitions sources).map Prod.fst).Nodup := by
    rw [SourceLine.definitions_names]
    exact means.distinct
  rw [label?, means.indexed, means.labels]
  exact NameMap.find_of_list_eq_some_iff _ distinct

theorem label_is_some_iff (means : Means externals sources program) {name : String} :
    (program.label? name).isSome = true ↔ name ∈ SourceLine.names sources := by
  rw [Option.isSome_iff_exists, ← SourceLine.definitions_names, List.mem_map]
  constructor
  · intro found
    obtain ⟨pc, found⟩ := found
    exact ⟨(name, pc), means.label_eq_some_iff.1 found, rfl⟩
  · intro defined
    obtain ⟨⟨label, pc⟩, member, rfl⟩ := defined
    exact ⟨pc, means.label_eq_some_iff.2 member⟩

end Means

/-- Assembly succeeds exactly when the lines of tokens follow the grammar, no label is defined twice
and every target is known, and then yields exactly the program that the lines mean. -/
theorem of_tokens_accepts_exactly_the_grammar (externals : List String) (tokens : List Token) :
    ((∃ program, ofTokens externals tokens = .ok program) ↔
      ∃ sources, SourceLine.Reads tokens sources ∧ (SourceLine.names sources).Nodup ∧
        ∀ statement ∈ SourceLine.statements sources,
          statement.Resolvable (externals.map Text.bareName) (SourceLine.names sources)) ∧
      ∀ program, ofTokens externals tokens = .ok program ↔
        ∃ sources, SourceLine.Reads tokens sources ∧
          Means (externals.map Text.bareName) sources program := by
  refine ⟨?_, fun program => of_tokens_eq_ok_iff⟩
  constructor
  · intro assembled
    obtain ⟨program, assembled⟩ := assembled
    obtain ⟨sources, reads, means⟩ := of_tokens_eq_ok_iff.1 assembled
    exact ⟨sources, reads, exists_means_iff.1 ⟨program, means⟩⟩
  · intro grammatical
    obtain ⟨sources, reads, conditions⟩ := grammatical
    obtain ⟨program, means⟩ := exists_means_iff.2 conditions
    exact ⟨program, of_tokens_eq_ok_iff.2 ⟨sources, reads, means⟩⟩

end Program

end ThreeAddress
