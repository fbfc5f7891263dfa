import ThreeAddress.Proofs.Linkage
import ThreeAddress.Proofs.ProgramCounter

/-!
Calls in images. An image records for every call where its callee starts, but the machine looks the
callee up in the global table, which drops an `@` from every name, and an image may hold labels that
differ by an `@` only. A call that does not fault enters one of the labels that share the callee's
name in this way, so it goes where the image says as soon as these labels all stand there.
-/

namespace ThreeAddress

namespace GlobalTable

variable {program : Program} {table : GlobalTable}

def HasFunction (table : GlobalTable) (key : String) : Prop :=
  ∃ entry, table.entries.find? key = some (.function entry)

/-- Every function of the table starts at a label that has its name up to an `@`. -/
def StartsAtLabels (program : Program) (table : GlobalTable) : Prop :=
  ∀ key entry, table.entries.find? key = some (.function entry) →
    ∃ label, program.label? label = some entry.entry ∧ Text.bareName label = key

theorem find_define_function (table : GlobalTable) (name key : String) (pc : Nat)
    (params : List String) :
    (table.defineFunction name pc params).entries.find? key =
      if key = Text.bareName name then some (.function ⟨pc, params⟩)
      else table.entries.find? key := by
  rw [defineFunction, define, NameMap.find_insert]

theorem HasFunction.define_function {key : String} (defined : table.HasFunction key)
    (name : String) (pc : Nat) (params : List String) :
    (table.defineFunction name pc params).HasFunction key := by
  rw [HasFunction, find_define_function]
  split
  · exact ⟨_, rfl⟩
  · exact defined

theorem has_function_defined (table : GlobalTable) (name : String) (pc : Nat)
    (params : List String) :
    (table.defineFunction name pc params).HasFunction (Text.bareName name) := by
  rw [HasFunction, find_define_function, if_pos rfl]
  exact ⟨_, rfl⟩

theorem StartsAtLabels.define_function (starts : table.StartsAtLabels program) {name : String}
    {pc : Nat} (found : program.label? name = some pc) (params : List String) :
    (table.defineFunction name pc params).StartsAtLabels program := by
  intro key entry held
  rw [find_define_function] at held
  split at held
  · rename_i same
    cases held
    exact ⟨name, found, same.symm⟩
  · exact starts key entry held

/-- The table follows the labels of the program: its functions start at them, and all of them are
functions, though possibly not at the label itself. -/
structure FollowsLabels (program : Program) (table : GlobalTable) : Prop where
  starts : table.StartsAtLabels program
  defined : ∀ label pc, program.label? label = some pc → table.HasFunction (Text.bareName label)

theorem FollowsLabels.define_function (follows : table.FollowsLabels program) {name : String}
    {pc : Nat} (found : program.label? name = some pc) (params : List String) :
    (table.defineFunction name pc params).FollowsLabels program where
  starts := follows.starts.define_function found params
  defined label target known := (follows.defined label target known).define_function name pc params

/-- A table made of labels starts its functions at them and holds a function for each. -/
theorem follows_listed_labels {labels : List (String × Nat)}
    (listed : ∀ label ∈ labels, program.label? label.1 = some label.2) :
    let table := labels.foldl (fun table label => table.defineFunction label.1 label.2 []) empty
    table.StartsAtLabels program ∧ ∀ label ∈ labels, table.HasFunction (Text.bareName label.1) := by
  induction labels using List.reverseRecOn with
  | nil => exact ⟨nofun, nofun⟩
  | append_singleton labels last induction =>
      obtain ⟨before, here⟩ := List.forall_mem_append.1 listed
      have found := here last (List.mem_singleton_self last)
      obtain ⟨starts, functions⟩ := induction before
      rw [List.foldl_append]
      refine ⟨starts.define_function found [], ?_⟩
      intro label member
      rcases List.mem_append.1 member with earlier | same
      · exact (functions label earlier).define_function last.1 last.2 []
      · rw [List.mem_singleton.1 same]
        exact has_function_defined _ last.1 last.2 []

theorem follows_labels_of_program (sound : program.WellFormed) :
    (ofProgram program).FollowsLabels program := by
  have listed : ∀ label ∈ program.labels, program.label? label.1 = some label.2 :=
    fun label member => sound.label_eq_some_iff.2 member
  obtain ⟨starts, functions⟩ := follows_listed_labels listed
  refine ⟨starts, ?_⟩
  intro label pc found
  exact functions (label, pc) (sound.label_eq_some_iff.1 found)

/-- Under the name of a label the table holds a function, which starts at a label of that name up to
an `@`. -/
theorem FollowsLabels.exists_entry (follows : table.FollowsLabels program) {name : String}
    {pc : Nat} (found : program.label? name = some pc) :
    ∃ label entry, program.label? label = some entry.entry ∧
      Text.bareName label = Text.bareName name ∧ table.get? name = some (.function entry) := by
  obtain ⟨entry, held⟩ := follows.defined name pc found
  obtain ⟨label, stands, same⟩ := follows.starts _ entry held
  exact ⟨label, entry, stands, same, held⟩

end GlobalTable

namespace Session

variable {program : Program} {session : Session}

theorem follows_labels_add_prelude {table : GlobalTable} (follows : table.FollowsLabels program) :
    (addPrelude table).FollowsLabels program where
  starts := by
    intro key entry found
    rw [find_add_prelude] at found
    cases held : table.entries.find? key with
    | some global =>
        rw [held, Option.some_or] at found
        cases found
        exact follows.starts key entry held
    | none =>
        rw [held, Option.none_or] at found
        cases native : Native.ofName? key <;> simp [native] at found
  defined := by
    intro label pc found
    obtain ⟨entry, held⟩ := follows.defined label pc found
    exact ⟨entry, by rw [find_add_prelude, held, Option.some_or]⟩

theorem follows_labels_declare {table globals : GlobalTable} {declarations : List Declaration}
    (follows : table.FollowsLabels program)
    (declared : declare program table declarations = .ok globals) :
    globals.FollowsLabels program := by
  induction declarations generalizing table with
  | nil =>
      cases declared
      exact follows
  | cons declaration declarations induction =>
      rw [declare, GlobalTable.bindFunction] at declared
      cases found : program.label? (Text.bareName declaration.function) with
      | none => simp [found] at declared
      | some pc =>
          simp only [found] at declared
          exact induction (follows.define_function found _) declared

theorem Created.follows_labels (created : session.Created) :
    session.globals.FollowsLabels session.program := by
  obtain ⟨name, program, options, sound, linked⟩ := created.exists_link
  obtain ⟨declared, parts⟩ := link_eq_ok_iff.1 linked
  have same : session.program = program := by rw [parts]
  have labels := GlobalTable.follows_labels_of_program sound
  rw [same]
  refine follows_labels_declare ?_ declared
  split
  · exact follows_labels_add_prelude labels
  · exact labels

end Session

theorem Machine.step_enters_function {setting : Setting} {machine : Machine} {dest : Option String}
    {callee : Callee} {entry : FunctionEntry} (running : machine.isRunning = true)
    (fetched : setting.program.get? machine.pc = some (.call dest callee))
    (found : setting.globals.get? callee.name = some (.function entry))
    (faultless : ∀ fault, (machine.step setting).status ≠ .faulted fault) :
    machine.Entered (machine.step setting) callee.name entry.entry := by
  rcases budget_or_spent setting machine with budget | ⟨limit, limited, spent⟩
  · have status : machine.counted.status = .running := status_of_running running
    rw [step_of_fetched running fetched budget, execute] at faultless ⊢
    rcases call_of_function dest status found with arity | depth | entered
    · exact absurd arity (faultless _)
    · exact absurd depth (faultless _)
    · exact ⟨entered.running, entered.callers, entered.function, entered.pc⟩
  · rw [step_of_spent running fetched limited spent] at faultless
    exact absurd rfl (faultless _)

namespace Session

/-- In a session of an image, a call whose callee has an entry and that does not fault enters a
label with the callee's name up to an `@`. If all these labels stand at the recorded entry, that is
where the machine goes. -/
theorem image_calls_enter_labels {name : String} {image : Image} {options : SessionOptions}
    {session : Session} (restored : ofImage name image options = .ok session) (config : Config)
    (count : Nat) {dest : Option String} {callee : Callee} {entry : Nat} :
    let machine := (session.machine config).run (session.setting config) count
    let next := machine.step (session.setting config)
    machine.isRunning = true → session.program.get? machine.pc = some (.call dest callee) →
    callee.entry = some entry → (∀ fault, next.status ≠ .faulted fault) →
    (∃ label ∈ session.program.labels, Text.bareName label.1 = Text.bareName callee.name ∧
      machine.Entered next callee.name label.2) ∧
    ((∀ label ∈ session.program.labels,
        Text.bareName label.1 = Text.bareName callee.name → label.2 = entry) →
      machine.Entered next callee.name entry) := by
  intro machine next running fetched resolved faultless
  have created : session.Created := .image restored
  have sound := created.bounded.1
  have label : session.program.label? callee.name = some entry := by
    rw [← resolved]
    exact (sound.resolved_at fetched).1.symm
  obtain ⟨other, target, stands, same, held⟩ := created.follows_labels.exists_entry label
  have entered : machine.Entered next callee.name target.entry :=
    Machine.step_enters_function running fetched held faultless
  have listed := sound.label_eq_some_iff.1 stands
  refine ⟨⟨(other, target.entry), listed, same, entered⟩, ?_⟩
  intro alone
  rw [← alone (other, target.entry) listed same]
  exact entered

/-- An image whose one function has an `@` in its name, as no text can give it. -/
def markedProgram : Program :=
  .ofParts
    [.call (some "r") ⟨"@f", false, some 2⟩, .ret (some (.variable "r")),
      .ret (some (.literal (.integer 7)))]
    [("main", 0), ("@f", 2)]

def markedSession : Session := ⟨"image", markedProgram, .ofProgram markedProgram, []⟩

theorem marked_session_restored :
    ofImage "image" (.ofProgram markedProgram []) {} = .ok markedSession :=
  of_image_of_program (by decide +kernel) "image"

theorem marked_call_enters_label :
    ofImage "image" (.ofProgram markedProgram []) {} = .ok markedSession ∧
      (∀ label ∈ markedProgram.labels,
        Text.bareName label.1 = Text.bareName "@f" → label.2 = 2) ∧
      (markedSession.machine {}).Entered
        ((markedSession.machine {}).step (markedSession.setting {})) "@f" 2 := by
  have alone : ∀ label ∈ markedProgram.labels,
      Text.bareName label.1 = Text.bareName "@f" → label.2 = 2 := by decide +kernel
  have running : ((markedSession.machine {}).step (markedSession.setting {})).status =
      .running := by decide +kernel
  have faultless : ∀ fault, ((markedSession.machine {}).step (markedSession.setting {})).status ≠
      .faulted fault := by
    intro fault faulted
    cases running.symm.trans faulted
  have fetched : markedSession.program.get? (markedSession.machine {}).pc =
      some (.call (some "r") ⟨"@f", false, some 2⟩) := by decide +kernel
  have enters := image_calls_enter_labels marked_session_restored {} 0 (by decide +kernel) fetched
    rfl faultless
  exact ⟨marked_session_restored, alone, enters.2 alone⟩

/-- Where two labels differ by an `@` only, a call does not go where the image says: the recorded
entry is 2, the machine enters at 3. The image is accepted all the same. -/
theorem colliding_call_enters_other_label :
    let machine := collidingSession.machine {}
    let next := machine.step (collidingSession.setting {})
    Image.decode (Image.encode (.ofProgram collidingProgram [])) =
        .ok (.ofProgram collidingProgram []) ∧
      ofImage "image" (.ofProgram collidingProgram []) {} = .ok collidingSession ∧
      machine.isRunning = true ∧
      collidingProgram.get? machine.pc = some (.call (some "r") ⟨"f", true, some 2⟩) ∧
      next.status = .running ∧ next.depth = machine.depth + 1 ∧ next.pc = 3 ∧ next.pc ≠ 2 := by
  refine ⟨by decide +kernel, colliding_session_restored, ?_⟩
  decide +kernel

end Session

end ThreeAddress
