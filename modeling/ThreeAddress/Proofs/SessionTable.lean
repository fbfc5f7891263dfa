import ThreeAddress.Proofs.Linking

/-!
The table of a session, stated apart from the passes that compute it. Its names are the labels of
the program and, if they are wanted, the natives; a label is a function with the parameters of the
last declaration that names it; a native is itself unless a label has its name. Linking gives this
table, or else refuses the first declaration that names no label.
-/

namespace ThreeAddress

theorem NameMap.mem_names_iff {α : Type} (map : NameMap α) (name : String) :
    name ∈ map.names ↔ (map.find? name).isSome = true := by
  rw [Option.isSome_iff_exists, names, List.mem_map]
  constructor
  · intro listed
    obtain ⟨⟨key, value⟩, member, rfl⟩ := listed
    exact ⟨value, (find_eq_some_iff map).2 member⟩
  · intro found
    obtain ⟨value, found⟩ := found
    exact ⟨(name, value), (find_eq_some_iff map).1 found, rfl⟩

namespace Session

/-- A declaration may name its function with an `@`. -/
def Names (declaration : Declaration) (function : String) : Prop :=
  Text.bareName declaration.function = function

instance (declaration : Declaration) (function : String) : Decidable (Names declaration function) :=
  inferInstanceAs (Decidable (Text.bareName declaration.function = function))

/-- The parameters that declarations leave a function with: those of the last one that names it, or
none if no declaration does. -/
inductive LastDeclared (function : String) : List Declaration → List String → Prop where
  | never {declarations : List Declaration}
      (unnamed : ∀ declaration ∈ declarations, ¬ Names declaration function) :
      LastDeclared function declarations []
  | last {before after : List Declaration} {declaration : Declaration}
      (named : Names declaration function) (later : ∀ other ∈ after, ¬ Names other function) :
      LastDeclared function (before ++ declaration :: after) declaration.params

structure Tabled (program : Program) (options : SessionOptions) (table : GlobalTable) : Prop where
  names : ∀ name, name ∈ table.names ↔ name ∈ program.labels.map Prod.fst ∨
    options.withPrelude = true ∧ name ∉ program.labels.map Prod.fst ∧
      name ∈ Native.prelude.map Native.name
  functions : ∀ label ∈ program.labels, ∃ params, LastDeclared label.1 options.params params ∧
    table.get? label.1 = some (.function ⟨label.2, params⟩)
  natives : options.withPrelude = true → ∀ native ∈ Native.prelude,
    native.name ∉ program.labels.map Prod.fst → table.get? native.name = some (.native native)

/-- What linking a program gives: the first declaration that names no label is refused, and if there
is none there is a session with the right table. -/
structure Assembles (name : String) (program : Program) (options : SessionOptions)
    (result : Except HostError Session) : Prop where
  refuses : ∀ before declaration after, options.params = before ++ declaration :: after →
    (∀ earlier ∈ before, ∃ label ∈ program.labels, Names earlier label.1) →
    (∀ label ∈ program.labels, ¬ Names declaration label.1) →
    result = .error (.ofArgumentError (.unknownFunction declaration.function))
  links : (∀ declaration ∈ options.params, ∃ label ∈ program.labels, Names declaration label.1) →
    ∃ table, Tabled program options table ∧ result = .ok ⟨name, program, table, options.params⟩

variable {program : Program}

theorem last_declared (declarations : List Declaration) (function : String) :
    LastDeclared function declarations ((declaredParams? declarations function).getD []) := by
  unfold declaredParams?
  cases found : declarations.reverse.find? fun declaration =>
      Text.bareName declaration.function == function with
  | none =>
      refine .never ?_
      intro declaration member
      simpa [Names] using List.find?_eq_none.1 found declaration (List.mem_reverse.2 member)
  | some declaration =>
      obtain ⟨named, after, before, whole, later⟩ := List.find?_eq_some_iff_append.1 found
      have split : declarations = before.reverse ++ declaration :: after.reverse := by
        simpa using congrArg List.reverse whole
      rw [split]
      refine .last (eq_of_beq named) ?_
      intro other member
      simpa [Names] using later other (List.mem_reverse.1 member)

/-- A declaration names a label exactly if the label's program counter is found for it. -/
theorem names_label_iff (sound : program.WellFormed) (declaration : Declaration) :
    (∃ label ∈ program.labels, Names declaration label.1) ↔
      ∃ pc, program.label? (Text.bareName declaration.function) = some pc := by
  simp only [sound.label_eq_some_iff]
  constructor
  · intro named
    obtain ⟨⟨name, pc⟩, member, same⟩ := named
    have bare : Text.bareName declaration.function = name := same
    exact ⟨pc, bare ▸ member⟩
  · intro listed
    obtain ⟨pc, member⟩ := listed
    exact ⟨_, member, rfl⟩

theorem declare_of_found {declaration : Declaration} {pc : Nat}
    (found : program.label? (Text.bareName declaration.function) = some pc) (table : GlobalTable)
    (declarations : List Declaration) :
    declare program table (declaration :: declarations) =
      declare program
        (table.defineFunction (Text.bareName declaration.function) pc declaration.params)
        declarations := by
  simp only [declare, GlobalTable.bindFunction, found]

theorem declare_eq_ok {declarations : List Declaration}
    (known : ∀ declaration ∈ declarations,
      ∃ pc, program.label? (Text.bareName declaration.function) = some pc) (table : GlobalTable) :
    ∃ globals, declare program table declarations = .ok globals := by
  induction declarations generalizing table with
  | nil => exact ⟨table, rfl⟩
  | cons declaration declarations induction =>
      obtain ⟨⟨pc, found⟩, others⟩ := List.forall_mem_cons.1 known
      rw [declare_of_found found]
      exact induction others _

theorem declare_eq_error {before after : List Declaration} {declaration : Declaration}
    (known : ∀ earlier ∈ before,
      ∃ pc, program.label? (Text.bareName earlier.function) = some pc)
    (unknown : program.label? (Text.bareName declaration.function) = none) (table : GlobalTable) :
    declare program table (before ++ declaration :: after) =
      .error (.unknownFunction declaration.function) := by
  induction before generalizing table with
  | nil => simp only [List.nil_append, declare, GlobalTable.bindFunction, unknown]
  | cons earlier before induction =>
      obtain ⟨⟨pc, found⟩, others⟩ := List.forall_mem_cons.1 known
      rw [List.cons_append, declare_of_found found]
      exact induction others _

theorem tabled_of_link {name : String} {options : SessionOptions} {session : Session}
    (sound : program.WellFormed) (bare : BareLabels program)
    (linked : link name program options = .ok session) :
    Tabled program options session.globals := by
  have lookup := find_link sound bare linked
  have unlabelled : ∀ key, key ∉ program.labels.map Prod.fst → program.label? key = none := by
    intro key missing
    cases found : program.label? key with
    | none => rfl
    | some pc => exact absurd (List.mem_map_of_mem (sound.label_eq_some_iff.1 found)) missing
  refine ⟨?_, ?_, ?_⟩
  · intro key
    rw [GlobalTable.names, NameMap.mem_names_iff, lookup]
    by_cases listed : key ∈ program.labels.map Prod.fst
    · obtain ⟨⟨label, pc⟩, member, rfl⟩ := List.mem_map.1 listed
      simp [sound.label_eq_some_iff.2 member, listed]
    · have natives : (Native.ofName? key).isSome = true ↔ key ∈ Native.prelude.map Native.name := by
        rw [Option.isSome_iff_exists, List.mem_map]
        simp only [Native.of_name_eq_some_iff]
      rw [unlabelled key listed, ← natives]
      cases options.withPrelude <;> simp [listed]
  · intro label member
    have found := sound.label_eq_some_iff.2 member
    refine ⟨_, last_declared options.params label.1, ?_⟩
    rw [GlobalTable.get?, bare _ _ found, lookup, found]
  · intro wanted native member free
    rw [GlobalTable.get?, Native.bare_name_of_prelude member, lookup, unlabelled _ free, wanted,
      Native.of_name_eq_some_iff.2 ⟨member, rfl⟩]
    rfl

theorem assembles_link (name : String) (options : SessionOptions) (sound : program.WellFormed)
    (bare : BareLabels program) : Assembles name program options (link name program options) := by
  constructor
  · intro before declaration after whole known unknown
    have found := fun earlier member => (names_label_iff sound earlier).1 (known earlier member)
    have missing : program.label? (Text.bareName declaration.function) = none := by
      rw [Option.eq_none_iff_forall_ne_some]
      intro pc stands
      obtain ⟨label, member, named⟩ := (names_label_iff sound declaration).2 ⟨pc, stands⟩
      exact unknown label member named
    rw [link, whole, declare_eq_error found missing]
  · intro known
    have found := fun declaration member =>
      (names_label_iff sound declaration).1 (known declaration member)
    obtain ⟨globals, declared⟩ := declare_eq_ok found
      (if options.withPrelude then addPrelude (.ofProgram program) else .ofProgram program)
    have linked : link name program options = .ok ⟨name, program, globals, options.params⟩ := by
      rw [link, declared]
    exact ⟨globals, tabled_of_link sound bare linked, linked⟩

/-- A session from text is refused with the error of its build, if that fails, and otherwise is what
linking its program gives; and so is a session from an image of a program that was built from text,
where the image's declarations come before the host's. -/
theorem assembly_computes_documented_table (name : String) (options : SessionOptions) :
    (∀ source error,
      Program.ofSource (if options.withPrelude then Native.prelude.map Native.name else []) source =
        .error error →
      ofSource name source options = .error (.ofBuildError name error)) ∧
    (∀ source program,
      Program.ofSource (if options.withPrelude then Native.prelude.map Native.name else []) source =
        .ok program →
      Assembles name program options (ofSource name source options)) ∧
    ∀ image externals source, Program.ofSource externals source = .ok image.program →
      Assembles name image.program { options with params := image.params ++ options.params }
        (ofImage name image options) := by
  refine ⟨?_, ?_, ?_⟩
  · intro source error failed
    rw [ofSource, externals, failed]
  · intro source program built
    rw [ofSource, externals, built]
    exact assembles_link name options (Program.well_formed_of_source built)
      (Program.bare_labels_of_source built)
  · intro image externals source built
    have sound := Program.well_formed_of_source built
    rw [ofImage, Image.checkProgram, Program.check_eq_ok_iff.2 sound]
    exact assembles_link name _ sound (Program.bare_labels_of_source built)

theorem shadowing_session_tabled :
    Program.ofSource (Native.prelude.map Native.name) shadowingSource = .ok shadowingProgram ∧
      (∃ table, Tabled shadowingProgram shadowingOptions table ∧
        ofSource "text" shadowingSource shadowingOptions =
          .ok ⟨"text", shadowingProgram, table, shadowingOptions.params⟩) ∧
      ofImage "image" ⟨1, shadowingProgram, [⟨"@max", ["p"]⟩]⟩
          ⟨[⟨"@lost", []⟩, ⟨"gone", ["q"]⟩], false⟩ =
        .error (.ofArgumentError (.unknownFunction "@lost")) := by
  have built : Program.ofSource (Native.prelude.map Native.name) shadowingSource =
      .ok shadowingProgram := by decide +kernel
  have session := (assembly_computes_documented_table "text" shadowingOptions).2.1 _ _ built
  have image := (assembly_computes_documented_table "image"
    ⟨[⟨"@lost", []⟩, ⟨"gone", ["q"]⟩], false⟩).2.2 ⟨1, shadowingProgram, [⟨"@max", ["p"]⟩]⟩ _ _ built
  exact ⟨built, session.links (by decide),
    image.refuses [⟨"@max", ["p"]⟩] ⟨"@lost", []⟩ [⟨"gone", ["q"]⟩] rfl (by decide) (by decide)⟩

end Session

end ThreeAddress
