import Mathlib.Data.List.Nodup
import ThreeAddress.Proofs.Blocks
import ThreeAddress.Proofs.Relocation

/-!
The order of blocks does not matter. Since control enters a block by its labels and leaves it by a
jump or a return, blocks in another order make up a program that assembles as well, and both
programs run in lockstep: an instruction keeps its block and its offset in it, and every program
counter that a machine holds is relocated accordingly.
-/

namespace ThreeAddress

namespace SourceLine

theorem definitions_from_eq_map (pc : Nat) (sources : List SourceLine) :
    definitionsFrom pc sources = (definitions sources).map fun label => (label.1, pc + label.2) := by
  have shifted : ∀ start, definitionsFrom (pc + start) sources =
      (definitionsFrom start sources).map fun label => (label.1, pc + label.2) := by
    induction sources with
    | nil => exact fun start => rfl
    | cons source sources induction =>
        intro start
        rw [definitionsFrom, definitionsFrom, List.map_append, List.map_map, Nat.add_assoc,
          induction]
        rfl
  exact shifted 0

end SourceLine

namespace Block

def size (block : Block) : Nat := (SourceLine.statements block.lines).length

def total (blocks : List Block) : Nat := (SourceLine.statements (source blocks)).length

/-- The program counters of one instruction in two orders of the blocks. The end of the program
counts as an instruction. -/
inductive Relocated (blocks moved : List Block) : Nat → Nat → Prop where
  | inside {block : Block} {before after ahead behind : List Block} {offset : Nat}
      (here : blocks = before ++ block :: after) (there : moved = ahead ++ block :: behind)
      (within : offset < block.size) :
      Relocated blocks moved (total before + offset) (total ahead + offset)
  | atEnd : Relocated blocks moved (total blocks) (total moved)

variable {blocks moved before after : List Block} {block : Block}

theorem source_append (first second : List Block) :
    source (first ++ second) = source first ++ source second := List.flatMap_append

theorem source_cons (block : Block) (blocks : List Block) :
    source (block :: blocks) = block.lines ++ source blocks := rfl

theorem total_append (first second : List Block) :
    total (first ++ second) = total first + total second := by
  rw [total, source_append, SourceLine.statements_append, List.length_append]
  rfl

theorem total_cons (block : Block) (blocks : List Block) :
    total (block :: blocks) = block.size + total blocks := by
  rw [total, source_cons, SourceLine.statements_append, List.length_append]
  rfl

theorem names_source (blocks : List Block) :
    SourceLine.names (source blocks) = blocks.flatMap fun block => SourceLine.names block.lines :=
  List.flatMap_assoc

theorem exists_last_line (block : Block) :
    ∃ lines labels body, block.lines = lines ++ [⟨labels, some body⟩] ∧ body.Leaves := by
  obtain ⟨last, ends, body, held, leaves⟩ := block.leaves
  obtain ⟨lines, whole⟩ := List.getLast?_eq_some_iff.1 ends
  obtain ⟨labels, statement⟩ := last
  cases held
  exact ⟨lines, labels, body, whole, leaves⟩

theorem statements_of_last {lines : List SourceLine} {labels : List String} {body : Statement}
    (whole : block.lines = lines ++ [⟨labels, some body⟩]) :
    SourceLine.statements block.lines = SourceLine.statements lines ++ [body] := by
  rw [whole, SourceLine.statements_append]
  rfl

theorem size_of_last {lines : List SourceLine} {labels : List String} {body : Statement}
    (whole : block.lines = lines ++ [⟨labels, some body⟩]) :
    block.size = (SourceLine.statements lines).length + 1 := by
  rw [size, statements_of_last whole, List.length_append, List.length_singleton]

theorem size_pos (block : Block) : 0 < block.size := by
  obtain ⟨lines, labels, body, whole, -⟩ := block.exists_last_line
  rw [size_of_last whole]
  exact Nat.succ_pos _

/-- After a statement that control may pass stands another statement of the block. -/
theorem next_within {offset : Nat} {statement : Statement}
    (fetched : (SourceLine.statements block.lines)[offset]? = some statement)
    (passes : ¬ statement.Leaves) : offset + 1 < block.size := by
  obtain ⟨lines, labels, body, whole, leaves⟩ := block.exists_last_line
  have bound : offset < block.size := (List.getElem?_eq_some_iff.1 fetched).1
  rw [size_of_last whole] at bound ⊢
  by_contra beyond
  have last : offset = (SourceLine.statements lines).length := by omega
  rw [statements_of_last whole, last, List.getElem?_concat_length] at fetched
  cases fetched
  exact passes leaves

theorem label_within {name : String} {offset : Nat}
    (defined : (name, offset) ∈ SourceLine.definitions block.lines) : offset < block.size := by
  obtain ⟨lines, labels, body, whole, -⟩ := block.exists_last_line
  rw [size_of_last whole]
  rw [SourceLine.definitions, whole, SourceLine.definitions_from_append] at defined
  rcases List.mem_append.1 defined with before | last
  · have bounds := SourceLine.definitions_from_bounds before
    omega
  · rw [SourceLine.definitionsFrom, SourceLine.definitionsFrom, List.append_nil] at last
    obtain ⟨label, -, same⟩ := List.mem_map.1 last
    cases same
    omega

theorem statement_at (here : blocks = before ++ block :: after) {offset : Nat}
    (within : offset < block.size) :
    (SourceLine.statements (source blocks))[total before + offset]? =
      (SourceLine.statements block.lines)[offset]? := by
  have later : total before ≤ total before + offset := Nat.le_add_right _ _
  rw [total] at later ⊢
  rw [here, source_append, source_cons, SourceLine.statements_append, SourceLine.statements_append,
    List.getElem?_append_right later, Nat.add_sub_cancel_left, List.getElem?_append_left within]

theorem exists_of_defined {name : String} {pc : Nat}
    (defined : (name, pc) ∈ SourceLine.definitions (source blocks)) :
    ∃ before block after offset, blocks = before ++ block :: after ∧
      (name, offset) ∈ SourceLine.definitions block.lines ∧ pc = total before + offset := by
  induction blocks generalizing pc with
  | nil => cases defined
  | cons block blocks induction =>
      rw [source_cons, SourceLine.definitions, SourceLine.definitions_from_append] at defined
      rcases List.mem_append.1 defined with here | there
      · exact ⟨[], block, blocks, pc, rfl, here, (Nat.zero_add pc).symm⟩
      · rw [SourceLine.definitions_from_eq_map] at there
        obtain ⟨⟨label, rest⟩, inside, same⟩ := List.mem_map.1 there
        cases same
        obtain ⟨before, owner, after, offset, whole, own, rfl⟩ := induction inside
        refine ⟨block :: before, owner, after, offset, congrArg _ whole, own, ?_⟩
        rw [total_cons]
        change 0 + block.size + (total before + offset) = _
        omega

theorem mem_of_layout (here : blocks = before ++ block :: after) : block ∈ blocks := by
  rw [here]
  exact List.mem_append_right _ List.mem_cons_self

theorem owner_unique (distinct : (SourceLine.names (source blocks)).Nodup) {first second : Block}
    (here : first ∈ blocks) (there : second ∈ blocks) {name : String}
    (left : name ∈ SourceLine.names first.lines) (right : name ∈ SourceLine.names second.lines) :
    first = second := by
  rw [names_source, List.nodup_flatMap] at distinct
  by_contra different
  have symmetric : Std.Symm (Function.onFun List.Disjoint
      fun block : Block => SourceLine.names block.lines) :=
    ⟨fun first second disjoint name left right => disjoint right left⟩
  exact distinct.2.forall here there different left right

theorem relocated_of_defined (reordered : blocks.Perm moved)
    (distinct : (SourceLine.names (source blocks)).Nodup) {name : String} {pc other : Nat}
    (here : (name, pc) ∈ SourceLine.definitions (source blocks))
    (there : (name, other) ∈ SourceLine.definitions (source moved)) :
    Relocated blocks moved pc other := by
  obtain ⟨before, owner, after, offset, whole, own, rfl⟩ := exists_of_defined here
  obtain ⟨ahead, holder, behind, place, layout, held, rfl⟩ := exists_of_defined there
  have ownerMember : owner ∈ blocks := mem_of_layout whole
  have holderMember : holder ∈ blocks := reordered.mem_iff.2 (mem_of_layout layout)
  have same : owner = holder := owner_unique distinct ownerMember holderMember
    (SourceLine.name_mem_of_defined own) (SourceLine.name_mem_of_defined held)
  rw [← same] at held layout
  have ownDistinct : ((SourceLine.definitions owner.lines).map Prod.fst).Nodup := by
    rw [SourceLine.definitions_names]
    rw [names_source, List.nodup_flatMap] at distinct
    exact distinct.1 owner ownerMember
  have offsets : offset = place := by
    have first := (NameMap.find_of_list_eq_some_iff _ ownDistinct).2 own
    rw [(NameMap.find_of_list_eq_some_iff _ ownDistinct).2 held] at first
    exact (Option.some.inj first).symm
  rw [← offsets]
  exact .inside whole layout (label_within own)

theorem source_perm (reordered : blocks.Perm moved) : (source blocks).Perm (source moved) :=
  reordered.flatMap_right _

theorem names_perm (reordered : blocks.Perm moved) :
    (SourceLine.names (source blocks)).Perm (SourceLine.names (source moved)) :=
  (source_perm reordered).flatMap_right _

theorem count_line_breaks_join (reordered : blocks.Perm moved) :
    (join blocks).toList.count '\n' = (join moved).toList.count '\n' := by
  rw [join, join, String.toList_join, String.toList_join]
  exact ((reordered.map text).flatMap_right String.toList).count_eq '\n'

theorem exists_means_of_perm {externals : List String} {program : Program}
    (reordered : blocks.Perm moved) (means : Program.Means externals (source blocks) program) :
    ∃ other, Program.Means externals (source moved) other := by
  obtain ⟨distinct, resolvable⟩ := Program.exists_means_iff.1 ⟨program, means⟩
  have names := names_perm reordered
  refine Program.exists_means_iff.2 ⟨names.nodup_iff.1 distinct, ?_⟩
  intro statement member
  have inside : statement ∈ SourceLine.statements (source blocks) :=
    ((source_perm reordered).filterMap _).mem_iff.2 member
  have known := resolvable statement inside
  cases statement with
  | assign | binary | argument | ret => trivial
  | goto target => exact names.mem_iff.1 known
  | branch polarity condition target => exact names.mem_iff.1 known
  | call dest callee => exact known.imp_left names.mem_iff.1

end Block

theorem Statement.Means.moved {related : Nat → Nat → Prop} {externals : List String}
    {definitions elsewhere : List (String × Nat)} {statement : Statement}
    {instruction landed : Instruction} {pc other : Nat}
    (here : Means externals definitions statement instruction)
    (there : Means externals elsewhere statement landed)
    (labels : ∀ {name pc other}, (name, pc) ∈ definitions → (name, other) ∈ elsewhere →
      related pc other)
    (next : ¬ statement.Leaves → related (pc + 1) (other + 1)) :
    Instruction.Moved related pc other instruction landed := by
  cases here with
  | assign dest value =>
      cases there
      exact .assign dest value (next id)
  | binary dest left operator right =>
      cases there
      exact .binary dest left operator right (next id)
  | goto global defined =>
      cases there with
      | goto _ landing => exact .goto (labels defined landing)
  | branch polarity condition global defined =>
      cases there with
      | branch _ _ _ landing => exact .branch polarity condition (labels defined landing) (next id)
  | argument value =>
      cases there
      exact .argument value (next id)
  | call dest global defined => cases there <;> exact .call dest rfl (next id)
  | callExternal dest undefined known => cases there <;> exact .call dest rfl (next id)
  | ret value =>
      cases there
      exact .ret value

namespace Block

variable {blocks moved : List Block}

theorem programs_moved {externals : List String} {program other : Program}
    (reordered : blocks.Perm moved) (means : Program.Means externals (source blocks) program)
    (others : Program.Means externals (source moved) other) :
    Program.Moved (Relocated blocks moved) program other := by
  have labels : ∀ {name pc landing}, (name, pc) ∈ SourceLine.definitions (source blocks) →
      (name, landing) ∈ SourceLine.definitions (source moved) →
      Relocated blocks moved pc landing := relocated_of_defined reordered means.distinct
  constructor
  · intro pc elsewhere relocated
    have here := means.fetch pc
    have there := others.fetch elsewhere
    generalize program.get? pc = instruction at here ⊢
    generalize other.get? elsewhere = landed at there ⊢
    cases relocated with
    | atEnd =>
        have outside : ∀ order, (SourceLine.statements (source order))[total order]? = none :=
          fun order => List.getElem?_eq_none (Nat.le_refl _)
        rw [outside] at here there
        cases here
        cases there
        exact .none
    | @inside block before after ahead behind offset whole layout within =>
        rw [statement_at whole within] at here
        rw [statement_at layout within] at there
        cases fetched : (SourceLine.statements block.lines)[offset]? with
        | none => exact absurd (List.getElem?_eq_none_iff.1 fetched) (Nat.not_le.2 within)
        | some statement =>
            rw [fetched] at here there
            cases here with
            | some meant =>
                cases there with
                | some landing =>
                    refine .some (meant.moved landing labels ?_)
                    intro passes
                    exact .inside whole layout (next_within fetched passes)
  · intro name
    by_cases known : name ∈ SourceLine.names (source blocks)
    · have moved := (names_perm reordered).mem_iff.1 known
      obtain ⟨pc, here⟩ := Option.isSome_iff_exists.1 (means.label_is_some_iff.2 known)
      obtain ⟨landing, there⟩ := Option.isSome_iff_exists.1 (others.label_is_some_iff.2 moved)
      rw [here, there]
      exact .some (labels (means.label_eq_some_iff.1 here) (others.label_eq_some_iff.1 there))
    · have missing : name ∉ SourceLine.names (source moved) :=
        fun found => known ((names_perm reordered).mem_iff.2 found)
      rw [← means.label_is_some_iff, Option.not_isSome_iff_eq_none] at known
      rw [← others.label_is_some_iff, Option.not_isSome_iff_eq_none] at missing
      rw [known, missing]
      exact .none

theorem exists_label (block : Block) : ∃ name, name ∈ SourceLine.names block.lines := by
  obtain ⟨first, begins, labels⟩ := block.labelled
  obtain ⟨name, member⟩ := List.exists_mem_of_ne_nil _ labels
  exact ⟨name, List.mem_flatMap_of_mem (List.mem_of_head? begins) member⟩

theorem nodup_of_distinct (distinct : (SourceLine.names (source blocks)).Nodup) : blocks.Nodup := by
  rw [names_source, List.nodup_flatMap] at distinct
  refine distinct.2.imp ?_
  intro first second disjoint same
  obtain ⟨name, member⟩ := first.exists_label
  exact disjoint member (same ▸ member)

theorem exists_at {pc : Nat} (bound : pc < total blocks) :
    ∃ before block after offset, blocks = before ++ block :: after ∧ offset < block.size ∧
      pc = total before + offset := by
  induction blocks generalizing pc with
  | nil => cases bound
  | cons block blocks induction =>
      rw [total_cons] at bound
      by_cases own : pc < block.size
      · exact ⟨[], block, blocks, pc, rfl, own, (Nat.zero_add pc).symm⟩
      · obtain ⟨before, other, after, offset, whole, within, place⟩ :=
          @induction (pc - block.size) (by omega)
        refine ⟨block :: before, other, after, offset, congrArg _ whole, within, ?_⟩
        rw [total_cons]
        omega

theorem place_unique {before after ahead behind : List Block} {block other : Block}
    {offset place : Nat} (same : before ++ block :: after = ahead ++ other :: behind)
    (within : offset < block.size) (inside : place < other.size)
    (pcs : total before + offset = total ahead + place) :
    before = ahead ∧ block = other ∧ offset = place := by
  induction before generalizing ahead with
  | nil =>
      cases ahead with
      | nil =>
          cases same
          exact ⟨rfl, rfl, Nat.add_left_cancel pcs⟩
      | cons first ahead =>
          cases same
          rw [total_cons] at pcs
          change 0 + offset = _ at pcs
          omega
  | cons first before induction =>
      cases ahead with
      | nil =>
          cases same
          rw [total_cons] at pcs
          change _ = 0 + place at pcs
          omega
      | cons second ahead =>
          obtain ⟨rfl, rest⟩ := List.cons.inj same
          rw [total_cons, total_cons] at pcs
          obtain ⟨rfl, owner, offsets⟩ := induction rest (by omega)
          exact ⟨rfl, owner, offsets⟩

/-- Every program counter up to the end of the program is relocated to exactly one. -/
theorem exists_unique_relocated (reordered : blocks.Perm moved)
    (distinct : (SourceLine.names (source blocks)).Nodup) {pc : Nat} (bound : pc ≤ total blocks) :
    ∃! landing, Relocated blocks moved pc landing := by
  have single : moved.Nodup := reordered.nodup_iff.1 (nodup_of_distinct distinct)
  rcases Nat.lt_or_eq_of_le bound with less | rfl
  · obtain ⟨before, block, after, offset, whole, within, rfl⟩ := exists_at less
    have member : block ∈ moved := reordered.mem_iff.1 (mem_of_layout whole)
    obtain ⟨ahead, behind, layout⟩ := List.append_of_mem member
    refine ⟨total ahead + offset, .inside whole layout within, ?_⟩
    intro landing relocated
    generalize place : total before + offset = pc at relocated
    cases relocated with
    | atEnd => omega
    | @inside other first last front back shift here there short =>
        obtain ⟨rfl, rfl, rfl⟩ := place_unique (whole.symm.trans here) within short place
        rw [layout, List.nodup_middle, List.nodup_cons, List.mem_append, not_or] at single
        have fronts := ((List.append_cons_inj_of_notMem single.1.1 single.1.2).1
          (layout.symm.trans there)).1
        rw [fronts]
  · refine ⟨total moved, .atEnd, ?_⟩
    intro landing relocated
    generalize place : total blocks = pc at relocated
    cases relocated with
    | atEnd => rfl
    | inside here there short =>
        rw [here, total_append, total_cons] at place
        omega

theorem bare_name_of_label (block : Block) {name : String}
    (member : name ∈ SourceLine.names block.lines) : Text.bareName name = name := by
  obtain ⟨tokens, scanned, groups, grouped, spelled⟩ := block.reads
  rw [tokenize_eq_ok_iff] at scanned
  exact Text.bare_name_of_identifier
    (spelled.names_readable (grouped.readable scanned) name member).1

theorem bare_labels {externals : List String} {program : Program}
    (means : Program.Means externals (source blocks) program) :
    ∀ label ∈ program.labels, Text.bareName label.1 = label.1 := by
  intro label member
  rw [means.labels] at member
  have named : label.1 ∈ SourceLine.names (source blocks) :=
    SourceLine.name_mem_of_defined member
  rw [names_source] at named
  obtain ⟨block, -, own⟩ := List.mem_flatMap.1 named
  exact block.bare_name_of_label own

/-- The host names the entry by a label, or leaves it to the label `main` or else to the first
block, which stays the first. -/
def Starts (blocks moved : List Block) (config : Config) : Prop :=
  match config.entry with
  | some name => name ∈ SourceLine.names (source blocks)
  | none => "main" ∈ SourceLine.names (source blocks) ∨ blocks.head? = moved.head?

theorem relocated_zero (first : blocks.head? = moved.head?) : Relocated blocks moved 0 0 := by
  cases blocks with
  | nil =>
      cases moved with
      | nil => exact .atEnd
      | cons other moved => cases first
  | cons block blocks =>
      cases moved with
      | nil => cases first
      | cons other moved =>
          cases first
          exact @Relocated.inside _ _ block [] blocks [] moved 0 rfl rfl block.size_pos

/-- Blocks that assemble do so in every order, and for corresponding entries the machines run in
lockstep. -/
theorem block_order_keeps_runs {externals : List String} {program : Program}
    (reordered : blocks.Perm moved) (numbered : (join blocks).toList.count '\n' < Token.lastLine)
    (built : Program.ofSource externals (join blocks) = .ok program) :
    ∃ other, Program.ofSource externals (join moved) = .ok other ∧
      (∀ pc ≤ program.size, ∃! landing, Relocated blocks moved pc landing) ∧
      ∀ calls globals, (GlobalTable.ofProgram program).declare program calls = .ok globals →
        ∃ elsewhere, (GlobalTable.ofProgram other).declare other calls = .ok elsewhere ∧
          ∀ config, Starts blocks moved config →
            Machine.Lockstep (Relocated blocks moved) (.ofConfig program globals config)
              (.ofConfig other elsewhere config) (.start program globals config)
              (.start other elsewhere config) := by
  have means := (of_source_join_eq_ok_iff numbered).1 built
  obtain ⟨other, others⟩ := exists_means_of_perm reordered means
  rw [count_line_breaks_join reordered] at numbered
  have programs := programs_moved reordered means others
  have tables := GlobalTable.moved_of_program programs means.indexed others.indexed
    (bare_labels means) (bare_labels others)
  refine ⟨other, (of_source_join_eq_ok_iff numbered).2 others, ?_, ?_⟩
  · intro pc bound
    rw [means.size_eq] at bound
    exact exists_unique_relocated reordered means.distinct bound
  · intro calls globals declared
    obtain ⟨elsewhere, otherDeclared, linked⟩ := GlobalTable.declare_moved programs tables declared
    refine ⟨elsewhere, otherDeclared, ?_⟩
    intro config starts
    have named : ∀ name ∈ config.entry, (program.label? name).isSome = true := by
      intro name entry
      rw [Starts, entry] at starts
      exact means.label_is_some_iff.2 starts
    have unnamed : config.entry = none →
        (program.label? "main").isSome = true ∨ Relocated blocks moved 0 0 := by
      intro entry
      rw [Starts, entry] at starts
      exact starts.imp means.label_is_some_iff.2 relocated_zero
    obtain ⟨name, entry, landing, found, otherFound, params, entered⟩ :=
      Machine.find_entry_moved programs linked named unnamed
    have settings : Setting.Moved (Relocated blocks moved) (.ofConfig program globals config)
        (.ofConfig other elsewhere config) := ⟨programs, linked, rfl, rfl⟩
    exact Machine.start_lockstep settings found otherFound params entered

theorem reads_of_kinds {text : String} {kinds : List (List TokenKind)} {lines : List SourceLine}
    (scanned : (tokenize text).map (fun tokens => (Draft.lines tokens).map (·.map Token.kind)) =
      .ok kinds)
    (spelled : List.Forall₂ SourceLine.Spelled kinds lines) :
    ∃ tokens, tokenize text = .ok tokens ∧ SourceLine.Reads tokens lines := by
  cases found : tokenize text with
  | error error =>
      rw [found] at scanned
      cases scanned
  | ok tokens =>
      rw [found] at scanned
      cases scanned
      exact ⟨tokens, rfl, _, Token.grouped_iff.2 rfl, List.forall₂_map_left_iff.1 spelled⟩

def callerBlock : Block where
  text := "main: arg 7\n r := call @echo\n ret r\n"
  lines := [⟨["main"], some (.argument (.literal (.integer 7)))⟩,
    ⟨[], some (.call (some "r") ⟨"echo", true⟩)⟩, ⟨[], some (.ret (some (.variable "r")))⟩]
  reads := reads_of_kinds (by decide +kernel)
    (.cons (.statement ["main"] (.argument (.number 7)))
      (.cons (.statement [] (.callInto "r" (.global "echo")))
        (.cons (.statement [] (.retValue (.variable "r"))) .nil)))
  closed := by decide +kernel
  labelled := ⟨_, rfl, by decide⟩
  leaves := ⟨_, rfl, _, rfl, trivial⟩

def echoBlock : Block where
  text := "echo: goto back\nback: ret n\n"
  lines := [⟨["echo"], some (.goto ⟨"back", false⟩)⟩,
    ⟨["back"], some (.ret (some (.variable "n")))⟩]
  reads := reads_of_kinds (by decide +kernel)
    (.cons (.statement ["echo"] (.goto (.identifier "back")))
      (.cons (.statement ["back"] (.retValue (.variable "n"))) .nil))
  closed := by decide +kernel
  labelled := ⟨_, rfl, by decide⟩
  leaves := ⟨_, rfl, _, rfl, trivial⟩

def callProgram : Program :=
  .ofParts [.argument (.literal (.integer 7)), .call (some "r") ⟨"echo", true, some 3⟩,
      .ret (some (.variable "r")), .goto ⟨"back", false, 4⟩, .ret (some (.variable "n"))]
    [("main", 0), ("echo", 3), ("back", 4)]

def callGlobals : GlobalTable := (GlobalTable.ofProgram callProgram).defineFunction "echo" 3 ["n"]

theorem call_program_built :
    Program.ofSource [] (join [callerBlock, echoBlock]) = .ok callProgram := by decide +kernel

theorem call_blocks_swapped : [callerBlock, echoBlock].Perm [echoBlock, callerBlock] :=
  .swap echoBlock callerBlock []

theorem block_order_keeps_call :
    (join [callerBlock, echoBlock]).toList.count '\n' < Token.lastLine ∧
      (Machine.start callProgram callGlobals {}).isRunning = true ∧
      ∃ other elsewhere, Program.ofSource [] (join [echoBlock, callerBlock]) = .ok other ∧
        (GlobalTable.ofProgram other).declare other [.change "echo" ["n"]] = .ok elsewhere ∧
        Machine.Lockstep (Relocated [callerBlock, echoBlock] [echoBlock, callerBlock])
          (.ofConfig callProgram callGlobals {}) (.ofConfig other elsewhere {})
          (.start callProgram callGlobals {}) (.start other elsewhere {}) := by
  have numbered : (join [callerBlock, echoBlock]).toList.count '\n' < Token.lastLine := by
    decide +kernel
  have found : (GlobalTable.ofProgram callProgram).entries.find? "echo" =
      some (.function ⟨3, []⟩) := by
    have label : callProgram.label? "echo" = some 3 := by decide +kernel
    rw [GlobalTable.find_of_program rfl (by decide), label]
    rfl
  have declared : (GlobalTable.ofProgram callProgram).declare callProgram [.change "echo" ["n"]] =
      .ok callGlobals := by
    have bare : Text.bareName "echo" = "echo" := by decide
    simp only [GlobalTable.declare, ParamsCall.apply, GlobalTable.setParams, bare, found]
    rw [callGlobals, GlobalTable.defineFunction, GlobalTable.define, bare]
  have starts : Starts [callerBlock, echoBlock] [echoBlock, callerBlock] {} := .inl (by decide)
  obtain ⟨other, built, -, runs⟩ :=
    block_order_keeps_runs call_blocks_swapped numbered call_program_built
  obtain ⟨elsewhere, linked, lockstep⟩ := runs _ _ declared
  exact ⟨numbered, rfl, other, elsewhere, built, linked, lockstep {} starts⟩

def swappedProgram : Program :=
  .ofParts [.goto ⟨"back", false, 1⟩, .ret (some (.variable "n")),
      .argument (.literal (.integer 7)), .call (some "r") ⟨"echo", true, some 0⟩,
      .ret (some (.variable "r"))]
    [("echo", 0), ("back", 1), ("main", 2)]

def surplusConfig : Config := { entry := some "main", arguments := [.integer 1] }

/-- A machine that is refused stands at the first instruction, whichever that is. -/
theorem refused_start_not_relocated :
    [callerBlock, echoBlock].Perm [echoBlock, callerBlock] ∧
      Program.ofSource [] (join [callerBlock, echoBlock]) = .ok callProgram ∧
      Program.ofSource [] (join [echoBlock, callerBlock]) = .ok swappedProgram ∧
      Starts [callerBlock, echoBlock] [echoBlock, callerBlock] surplusConfig ∧
      ¬ Relocated [callerBlock, echoBlock] [echoBlock, callerBlock]
        (Machine.start callProgram (.ofProgram callProgram) surplusConfig).pc
        (Machine.start swappedProgram (.ofProgram swappedProgram) surplusConfig).pc := by
  have swapped : Program.ofSource [] (join [echoBlock, callerBlock]) = .ok swappedProgram := by
    decide +kernel
  have starts : Starts [callerBlock, echoBlock] [echoBlock, callerBlock] surplusConfig := by
    change "main" ∈ _
    decide
  refine ⟨call_blocks_swapped, call_program_built, swapped, starts, ?_⟩
  intro relocated
  have distinct : (SourceLine.names (source [callerBlock, echoBlock])).Nodup := by decide
  have moved : Relocated [callerBlock, echoBlock] [echoBlock, callerBlock] 0 2 :=
    @Relocated.inside _ _ callerBlock [] [echoBlock] [echoBlock] [] 0 rfl rfl callerBlock.size_pos
  have same : 0 = 2 :=
    (exists_unique_relocated call_blocks_swapped distinct (Nat.zero_le _)).unique relocated moved
  cases same

end Block

end ThreeAddress
