import ThreeAddress.Proofs.Layout
import ThreeAddress.Proofs.WellFormed
import ThreeAddress.Session

/-!
Linking. In the table of a linked program every label is a function that starts at the label and takes
the parameters of the last declaration that names it; a native has its own name unless a label takes
it; and no other name is defined.
-/

namespace ThreeAddress

namespace GlobalTable

theorem find_of_program {program : Program} (indexed : program.labelIndex = .ofList program.labels)
    (bare : ∀ label ∈ program.labels, Text.bareName label.1 = label.1) (key : String) :
    (ofProgram program).entries.find? key =
      (program.label? key).map fun pc => .function ⟨pc, []⟩ := by
  have defined : ∀ (labels : List (String × Nat)) (table : GlobalTable) (map : NameMap Nat),
      (∀ label ∈ labels, Text.bareName label.1 = label.1) →
      table.entries.find? key = (map.find? key).map (fun pc => .function ⟨pc, []⟩) →
      (labels.foldl (fun table label => table.defineFunction label.1 label.2 [])
          table).entries.find? key =
        ((labels.foldl (fun map label => map.insert label.1 label.2) map).find? key).map
          fun pc => .function ⟨pc, []⟩ := by
    intro labels
    induction labels with
    | nil =>
        intro table map names same
        exact same
    | cons label labels induction =>
        intro table map names same
        obtain ⟨here, there⟩ := List.forall_mem_cons.1 names
        have inserted : (table.defineFunction label.1 label.2 []).entries.find? key =
            ((map.insert label.1 label.2).find? key).map fun pc => .function ⟨pc, []⟩ := by
          rw [GlobalTable.defineFunction, define, here, NameMap.find_insert, NameMap.find_insert]
          split
          · rfl
          · exact same
        exact induction _ _ there inserted
  rw [Program.label?, indexed]
  exact defined program.labels empty .empty bare rfl

end GlobalTable

namespace Native

variable {native : Native}

/-- No two natives of the prelude share a name. -/
theorem of_name_eq_some_iff {name : String} :
    ofName? name = some native ↔ native ∈ prelude ∧ native.name = name := by
  constructor
  · intro found
    exact ⟨List.mem_of_find?_eq_some found, by simpa using List.find?_some found⟩
  · rintro ⟨installed, rfl⟩
    simp only [prelude, List.mem_cons, List.not_mem_nil, or_false] at installed
    rcases installed with rfl | rfl | rfl | rfl | rfl | rfl <;> rfl

theorem bare_name_of_prelude (installed : native ∈ prelude) :
    Text.bareName native.name = native.name := by
  simp only [prelude, List.mem_cons, List.not_mem_nil, or_false] at installed
  rcases installed with rfl | rfl | rfl | rfl | rfl | rfl <;> decide

end Native

namespace Session

variable {program : Program}

theorem find_add_native (table : GlobalTable) {native : Native}
    (bare : Text.bareName native.name = native.name) (key : String) :
    (if table.contains native.name then table else table.defineNative native).entries.find? key =
      (table.entries.find? key).or (if native.name = key then some (.native native) else none) := by
  have taken : table.contains native.name = (table.entries.find? native.name).isSome := by
    rw [GlobalTable.contains, GlobalTable.get?, bare]
  rw [taken]
  by_cases same : native.name = key
  · subst same
    cases held : table.entries.find? native.name with
    | none =>
        simp [GlobalTable.defineNative, GlobalTable.define, bare]
    | some global => simp [held]
  · have other : key ≠ native.name := Ne.symm same
    rw [if_neg same, Option.or_none]
    split
    · rfl
    · simp [GlobalTable.defineNative, GlobalTable.define, bare,
        NameMap.find_insert_of_ne _ _ other]

theorem find_add_prelude (table : GlobalTable) (key : String) :
    (addPrelude table).entries.find? key =
      (table.entries.find? key).or ((Native.ofName? key).map .native) := by
  have bare : ∀ native ∈ Native.prelude, Text.bareName native.name = native.name :=
    fun native installed => Native.bare_name_of_prelude installed
  unfold addPrelude Native.ofName?
  generalize Native.prelude = natives at bare ⊢
  induction natives generalizing table with
  | nil => simp
  | cons native natives induction =>
      obtain ⟨here, there⟩ := List.forall_mem_cons.1 bare
      rw [List.foldl_cons, induction _ there, find_add_native _ here, Option.or_assoc,
        List.find?_cons]
      by_cases same : native.name = key
      · simp [same]
      · simp [same, beq_false_of_ne same]

def declaredParams? (declarations : List Declaration) (function : String) : Option (List String) :=
  (declarations.reverse.find? fun declaration =>
    Text.bareName declaration.function == function).map Declaration.params

theorem declared_params_cons (declaration : Declaration) (declarations : List Declaration)
    (function : String) :
    declaredParams? (declaration :: declarations) function =
      (declaredParams? declarations function).or
        (if Text.bareName declaration.function = function then some declaration.params else none) := by
  simp only [declaredParams?, List.reverse_cons, List.find?_append, Option.map_or]
  by_cases same : Text.bareName declaration.function = function
  · simp [same]
  · simp [same, beq_false_of_ne same]

def BareLabels (program : Program) : Prop :=
  ∀ name pc, program.label? name = some pc → Text.bareName name = name

theorem declare_cons_eq_ok {table globals : GlobalTable} {declaration : Declaration}
    {declarations : List Declaration} (bare : BareLabels program)
    (declared : declare program table (declaration :: declarations) = .ok globals) :
    ∃ pc, program.label? (Text.bareName declaration.function) = some pc ∧
      declare program ⟨table.entries.insert (Text.bareName declaration.function)
        (.function ⟨pc, declaration.params⟩)⟩ declarations = .ok globals := by
  rw [declare, GlobalTable.bindFunction] at declared
  cases found : program.label? (Text.bareName declaration.function) with
  | none => simp [found] at declared
  | some pc =>
      simp only [found, GlobalTable.defineFunction, GlobalTable.define, bare _ _ found] at declared
      exact ⟨pc, rfl, declared⟩

/-- Declarations redefine the labels they name and nothing else. -/
theorem find_declare {table globals : GlobalTable} {declarations : List Declaration}
    (bare : BareLabels program) (declared : declare program table declarations = .ok globals)
    (key : String) :
    globals.entries.find? key =
      match declaredParams? declarations key with
      | some params => (program.label? key).map fun pc => .function ⟨pc, params⟩
      | none => table.entries.find? key := by
  induction declarations generalizing table with
  | nil =>
      cases declared
      rfl
  | cons declaration declarations induction =>
      obtain ⟨pc, found, later⟩ := declare_cons_eq_ok bare declared
      rw [induction later, declared_params_cons]
      cases declaredParams? declarations key with
      | some params => rfl
      | none =>
          by_cases same : Text.bareName declaration.function = key
          · subst same
            simp [found]
          · simp [same, NameMap.find_insert_of_ne _ _ (Ne.symm same)]

theorem label_of_declared {table globals : GlobalTable} {declarations : List Declaration}
    (bare : BareLabels program) (declared : declare program table declarations = .ok globals)
    {key : String} (named : (declaredParams? declarations key).isSome = true) :
    (program.label? key).isSome = true := by
  induction declarations generalizing table with
  | nil => cases named
  | cons declaration declarations induction =>
      obtain ⟨pc, found, later⟩ := declare_cons_eq_ok bare declared
      rw [declared_params_cons, Option.isSome_or, Bool.or_eq_true] at named
      rcases named with there | here
      · exact induction later there
      · by_cases same : Text.bareName declaration.function = key
        · rw [← same, found]
          rfl
        · simp [same] at here

theorem link_eq_ok_iff {name : String} {options : SessionOptions} {session : Session} :
    link name program options = .ok session ↔
      declare program (if options.withPrelude then addPrelude (.ofProgram program)
        else .ofProgram program) options.params = .ok session.globals ∧
      session = ⟨name, program, session.globals, options.params⟩ := by
  rw [link]
  split
  · rename_i globals declared
    rw [declared]
    constructor
    · intro linked
      cases linked
      exact ⟨rfl, rfl⟩
    · rintro ⟨same, linked⟩
      cases same
      rw [linked]
  · rename_i declared
    rw [declared]
    exact ⟨nofun, nofun⟩

theorem find_link {name : String} {options : SessionOptions} {session : Session}
    (sound : program.WellFormed) (bare : BareLabels program)
    (linked : link name program options = .ok session) (key : String) :
    session.globals.entries.find? key =
      match program.label? key with
      | some pc => some (.function ⟨pc, (declaredParams? options.params key).getD []⟩)
      | none => if options.withPrelude then (Native.ofName? key).map .native else none := by
  obtain ⟨declared, -⟩ := link_eq_ok_iff.1 linked
  have listed : ∀ label ∈ program.labels, Text.bareName label.1 = label.1 := by
    intro label member
    apply bare label.1 label.2
    exact ((Program.indexed_iff sound.distinct).1 sound.indexed).1 label member
  have labels := GlobalTable.find_of_program sound.indexed listed key
  have base : (if options.withPrelude then addPrelude (.ofProgram program)
      else .ofProgram program).entries.find? key =
      ((program.label? key).map fun pc => .function ⟨pc, []⟩).or
        (if options.withPrelude then (Native.ofName? key).map .native else none) := by
    split
    · rw [find_add_prelude, labels]
    · rw [labels, Option.or_none]
  rw [find_declare bare declared, base]
  cases named : declaredParams? options.params key with
  | none => cases program.label? key <;> rfl
  | some params =>
      have known := label_of_declared bare declared (Option.isSome_of_eq_some named)
      cases found : program.label? key with
      | none => simp [found] at known
      | some pc => rfl

end Session

theorem Program.bare_labels_of_source {externals : List String} {source : String} {program : Program}
    (built : ofSource externals source = .ok program) : Session.BareLabels program := by
  obtain ⟨tokens, drained, sources, ⟨groups, grouped, spelled⟩, means⟩ :=
    of_source_eq_ok_iff.1 built
  intro name pc found
  have defined := SourceLine.name_mem_of_defined (means.label_eq_some_iff.1 found)
  exact Text.bare_name_of_identifier
    (spelled.names_readable (grouped.readable drained) name defined).1

theorem Program.well_formed_of_source {externals : List String} {source : String}
    {program : Program} (built : ofSource externals source = .ok program) : program.WellFormed := by
  obtain ⟨tokens, drained, sources, reads, means⟩ := of_source_eq_ok_iff.1 built
  exact means.well_formed

theorem Session.of_source_eq_ok_iff {name source : String} {options : SessionOptions}
    {session : Session} :
    ofSource name source options = .ok session ↔
      ∃ program, Program.ofSource (externals options) source = .ok program ∧
        link name program options = .ok session := by
  rw [ofSource]
  cases Program.ofSource (externals options) source <;> simp

namespace Session

/-- A program with a function that takes the name of a native and is declared twice, and with a call
of another native. -/
def shadowingSource : String :=
  "main: arg 3\narg 4\nr := call @max\narg r\nr := call @abs\nret r\nmax: s := p - q\nret s"

def shadowingOptions : SessionOptions := ⟨[⟨"@max", ["a"]⟩, ⟨"max", ["p", "q"]⟩], true⟩

def shadowingProgram : Program :=
  .ofParts
    [.argument (.literal (.integer 3)), .argument (.literal (.integer 4)),
      .call (some "r") ⟨"max", true, some 6⟩, .argument (.variable "r"),
      .call (some "r") ⟨"abs", true, none⟩, .ret (some (.variable "r")),
      .binary "s" (.variable "p") .sub (.variable "q"), .ret (some (.variable "s"))]
    [("main", 0), ("max", 6)]

def shadowingSession : Session :=
  ⟨"text", shadowingProgram,
    (addPrelude (.ofProgram shadowingProgram)).defineFunction "max" 6 ["p", "q"],
    shadowingOptions.params⟩

theorem shadowing_session_built :
    ofSource "text" shadowingSource shadowingOptions = .ok shadowingSession := by
  have built : Program.ofSource (externals shadowingOptions) shadowingSource =
      .ok shadowingProgram := by decide +kernel
  have found : shadowingProgram.label? "max" = some 6 := by decide +kernel
  have bare : Text.bareName "@max" = "max" ∧ Text.bareName "max" = "max" := by decide
  rw [of_source_eq_ok_iff]
  refine ⟨shadowingProgram, built, link_eq_ok_iff.2 ⟨?_, rfl⟩⟩
  -- The second declaration of the function replaces the first.
  simp [shadowingOptions, shadowingSession, declare, GlobalTable.bindFunction, found, bare,
    GlobalTable.defineFunction, GlobalTable.define, NameMap.insert_insert]

end Session

end ThreeAddress
