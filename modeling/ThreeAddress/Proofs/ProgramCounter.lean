import ThreeAddress.Proofs.CallStack
import ThreeAddress.Proofs.Linking

/-!
The program counter never leaves the program. In a session, however it was created, jumps go to labels,
functions start at labels and frames return to the instruction after a call; all of these stand inside
the program or at its end, whatever names an image gives its labels.
-/

namespace ThreeAddress

namespace Program

variable {program : Program}

theorem lt_size_of_get {pc : Nat} {instruction : Instruction}
    (fetched : program.get? pc = some instruction) : pc < program.size :=
  (Array.getElem?_eq_some_iff.1 fetched).1

namespace WellFormed

theorem label_le_size (sound : program.WellFormed) {name : String} {pc : Nat}
    (found : program.label? name = some pc) : pc ≤ program.size := by
  rw [label?, sound.indexed, NameMap.find_of_list_eq_some_iff _ sound.distinct] at found
  exact sound.bounded (name, pc) found

theorem resolved_at (sound : program.WellFormed) {pc : Nat} {instruction : Instruction}
    (fetched : program.get? pc = some instruction) : instruction.Resolved program.labelIndex :=
  sound.resolved instruction (Array.mem_of_getElem? fetched)

theorem jump_le_size (sound : program.WellFormed) {pc target : Nat} {instruction : Instruction}
    (fetched : program.get? pc = some instruction) (jumps : instruction.JumpsTo target) :
    target ≤ program.size := by
  have resolved := sound.resolved_at fetched
  cases instruction with
  | goto label =>
      cases jumps
      exact sound.label_le_size resolved
  | branch polarity condition label =>
      cases jumps
      exact sound.label_le_size resolved
  | assign | binary | argument | call | ret | labelMarker => cases jumps

theorem no_label_marker (sound : program.WellFormed) (pc : Nat) (name : String) :
    program.get? pc ≠ some (.labelMarker name) := fun fetched => sound.resolved_at fetched

end WellFormed

end Program

namespace GlobalTable

def EntersWithin (size : Nat) (table : GlobalTable) : Prop :=
  ∀ name entry, table.entries.find? name = some (.function entry) → entry.entry ≤ size

theorem get_of_function {table : GlobalTable} {name : String} {entry : FunctionEntry}
    (found : table.function? name = some entry) : table.get? name = some (.function entry) := by
  rw [function?] at found
  split at found
  · rename_i held
    cases found
    exact held
  · cases found

theorem EntersWithin.define_function {size : Nat} {table : GlobalTable} (within : table.EntersWithin size)
    (name : String) {pc : Nat} (bounded : pc ≤ size) (params : List String) :
    (table.defineFunction name pc params).EntersWithin size := by
  intro key entry found
  rw [defineFunction, define, NameMap.find_insert] at found
  split at found
  · cases found
    exact bounded
  · exact within key entry found

theorem enters_within_of_program {program : Program}
    (bounded : ∀ label ∈ program.labels, label.2 ≤ program.size) :
    (ofProgram program).EntersWithin program.size := by
  have defined : ∀ (labels : List (String × Nat)) (table : GlobalTable),
      (∀ label ∈ labels, label.2 ≤ program.size) → table.EntersWithin program.size →
      (labels.foldl (fun table label => table.defineFunction label.1 label.2 [])
        table).EntersWithin program.size := by
    intro labels
    induction labels with
    | nil =>
        intro table inside within
        exact within
    | cons label labels induction =>
        intro table inside within
        obtain ⟨here, there⟩ := List.forall_mem_cons.1 inside
        exact induction _ there (within.define_function label.1 here [])
  exact defined program.labels empty bounded nofun

end GlobalTable

namespace Session

variable {program : Program} {session : Session}

theorem enters_within_add_prelude {size : Nat} {table : GlobalTable}
    (within : table.EntersWithin size) : (addPrelude table).EntersWithin size := by
  intro name entry found
  rw [find_add_prelude] at found
  cases held : table.entries.find? name with
  | some global =>
      rw [held, Option.some_or] at found
      cases found
      exact within name entry held
  | none =>
      rw [held, Option.none_or] at found
      cases native : Native.ofName? name <;> simp [native] at found

theorem enters_within_declare (sound : program.WellFormed) {table globals : GlobalTable}
    {declarations : List Declaration} (within : table.EntersWithin program.size)
    (declared : declare program table declarations = .ok globals) :
    globals.EntersWithin program.size := by
  induction declarations generalizing table with
  | nil =>
      cases declared
      exact within
  | cons declaration declarations induction =>
      rw [declare, GlobalTable.bindFunction] at declared
      cases found : program.label? (Text.bareName declaration.function) with
      | none => simp [found] at declared
      | some pc =>
          simp only [found] at declared
          exact induction (within.define_function _ (sound.label_le_size found) _) declared

inductive Created (session : Session) : Prop where
  | source {name source : String} {options : SessionOptions}
      (built : ofSource name source options = .ok session)
  | image {name : String} {image : Image} {options : SessionOptions}
      (restored : ofImage name image options = .ok session)

theorem Created.exists_link (created : session.Created) :
    ∃ name program options, program.WellFormed ∧ link name program options = .ok session := by
  cases created with
  | @source name source options built =>
      obtain ⟨program, assembled, linked⟩ := of_source_eq_ok_iff.1 built
      exact ⟨name, program, options, Program.well_formed_of_source assembled, linked⟩
  | @image name image options restored =>
      rw [ofImage, Image.checkProgram] at restored
      cases checked : image.program.check with
      | error defect =>
          rw [checked] at restored
          cases restored
      | ok accepted =>
          rw [checked] at restored
          exact ⟨name, image.program, _, Program.check_eq_ok_iff.1 checked, restored⟩

theorem Created.bounded (created : session.Created) :
    session.program.WellFormed ∧ session.globals.EntersWithin session.program.size := by
  obtain ⟨name, program, options, sound, linked⟩ := created.exists_link
  obtain ⟨declared, parts⟩ := link_eq_ok_iff.1 linked
  have labels := GlobalTable.enters_within_of_program sound.bounded
  have same : session.program = program := by rw [parts]
  rw [same]
  refine ⟨sound, enters_within_declare sound ?_ declared⟩
  split
  · exact enters_within_add_prelude labels
  · exact labels

end Session

namespace Machine

variable {setting : Setting} {machine : Machine}

/-- A step that stops the machine stops it where it stands, at an instruction of the program. -/
theorem fault_of_step {fault : Fault} (running : machine.isRunning = true)
    (faulted : (machine.step setting).status = .faulted fault) :
    fault.pc = machine.pc ∧ (machine.step setting).pc = machine.pc ∧
      machine.pc < setting.program.size := by
  obtain ⟨instruction, fetched, spent | stopped⟩ := step_of_faulted running faulted
  · obtain ⟨limit, -, -, same⟩ := spent
    rw [same] at faulted ⊢
    cases faulted
    exact ⟨rfl, rfl, Program.lt_size_of_get fetched⟩
  · obtain ⟨-, pending, kind, -, same⟩ := stopped
    rw [same] at faulted ⊢
    cases faulted
    exact ⟨rfl, rfl, Program.lt_size_of_get fetched⟩

/-- The program counter stands inside the program or at its end, and so does that of a fault. A
return goes where its frame says, so the discipline of calls is part of it. -/
structure Inside (setting : Setting) (machine : Machine) : Prop extends
    Disciplined setting machine where
  pc : machine.pc ≤ setting.program.size
  fault : ∀ fault, machine.status = .faulted fault → fault.pc ≤ setting.program.size

theorem return_pc_le_size {frame : Frame} (called : frame.Called setting) {pc : Nat}
    (returns : frame.returnPc = some pc) : pc ≤ setting.program.size := by
  obtain ⟨before, callee, entry, after, fetched, -⟩ := called
  rw [returns, Option.some.injEq] at after
  rw [after]
  exact Program.lt_size_of_get fetched

theorem return_with_pc_le_size (disciplined : Disciplined setting machine)
    (inside : machine.pc ≤ setting.program.size) (value : Option Value) :
    (machine.returnWith value).pc ≤ setting.program.size := by
  have stacked := disciplined.stacked
  cases callers : machine.callers with
  | nil =>
      rw [return_with_of_outermost callers]
      exact inside
  | cons caller below =>
      rw [callers] at stacked
      rw [return_with_of_callers callers]
      cases returns : machine.frame.returnPc with
      | none => exact inside
      | some pc => exact return_pc_le_size stacked.1 returns

theorem step_pc_le_size (sound : setting.program.WellFormed)
    (entries : setting.globals.EntersWithin setting.program.size) (inside : Inside setting machine)
    (running : machine.isRunning = true) : (machine.step setting).pc ≤ setting.program.size := by
  have status := status_of_running running
  have outcome := stepped setting running
  generalize machine.step setting = after at outcome
  cases outcome with
  | ended outside => exact return_with_pc_le_size inside.toDisciplined inside.pc none
  | exhausted fetched limited spent => exact inside.pc
  | stayed fetched budget stays =>
      cases stays with
      | moved environment pending reached =>
          rcases reached with next | jumps
          · exact next ▸ Program.lt_size_of_get fetched
          · exact sound.jump_le_size fetched jumps
      | stopped pending stops => exact inside.pc
  | entered budget enters => exact entries _ _ enters.found
  | returned budget returns =>
      exact return_with_pc_le_size (inside.counted status budget) inside.pc _

theorem Inside.step (sound : setting.program.WellFormed)
    (entries : setting.globals.EntersWithin setting.program.size) (inside : Inside setting machine)
    (running : machine.isRunning = true) : Inside setting (machine.step setting) where
  toDisciplined := inside.toDisciplined.step running
  pc := step_pc_le_size sound entries inside running
  fault fault faulted := by
    rw [(fault_of_step running faulted).1]
    exact inside.pc

theorem entry_le_size {program : Program} {globals : GlobalTable} (sound : program.WellFormed)
    (entries : globals.EntersWithin program.size) {name : String} {entry : FunctionEntry}
    (found : entryOf? program globals name = some entry) : entry.entry ≤ program.size := by
  rw [entryOf?] at found
  split at found
  · rename_i known
    cases found
    exact entries _ _ (GlobalTable.get_of_function known)
  · obtain ⟨pc, label, rfl⟩ := Option.map_eq_some_iff.1 found
    exact sound.label_le_size label

theorem find_entry_le_size {program : Program} {globals : GlobalTable} (sound : program.WellFormed)
    (entries : globals.EntersWithin program.size) {requested : Option String} {name : String}
    {entry : FunctionEntry} (found : findEntry program globals requested = .ok (name, entry)) :
    entry.entry ≤ program.size := by
  cases requested with
  | some label =>
      rw [findEntry] at found
      split at found
      · rename_i known
        cases found
        exact entry_le_size sound entries known
      · cases found
  | none =>
      rw [findEntry] at found
      split at found
      · rename_i known
        cases found
        exact entry_le_size sound entries known
      · cases found
        exact Nat.zero_le _

theorem start_le_size {program : Program} {globals : GlobalTable} (sound : program.WellFormed)
    (entries : globals.EntersWithin program.size) (config : Config) :
    (start program globals config).pc ≤ program.size ∧
      ∀ fault, (start program globals config).status = .faulted fault →
        fault.pc ≤ program.size := by
  rw [start]
  split
  · refine ⟨Nat.zero_le _, ?_⟩
    rintro fault ⟨⟩
    exact Nat.zero_le _
  · rename_i name entry found
    have bounded := find_entry_le_size sound entries found
    dsimp only
    split
    · refine ⟨bounded, ?_⟩
      rintro fault ⟨⟩
    · refine ⟨Nat.zero_le _, ?_⟩
      rintro fault ⟨⟩
      exact bounded

theorem Inside.of_reaches {program : Program} {globals : GlobalTable} {config : Config}
    (sound : program.WellFormed) (entries : globals.EntersWithin program.size)
    (reached : Reaches (.ofConfig program globals config) (Machine.start program globals config)
      machine) : Inside (.ofConfig program globals config) machine := by
  refine reached.invariant ?_ ?_ ?_
  · intro machine running inside
    exact inside.step sound entries running
  · obtain ⟨pc, fault⟩ := start_le_size sound entries config
    exact ⟨.start program globals config, pc, fault⟩
  · intro machine kind running inside
    refine ⟨inside.toDisciplined.fail kind, inside.pc, ?_⟩
    rintro fault ⟨⟩
    exact inside.pc

end Machine

/-- In every state that a host can bring a machine of a session to, the program counter, the places
that the frames return to and the place of a fault stand inside the program or at its end; a step
that stops the machine leaves its program counter at the instruction it faults over; and no label
marker is ever fetched. -/
theorem Session.program_counter_stays_inside {session : Session} (created : session.Created)
    (config : Config) {machine : Machine}
    (reached : Machine.Reaches (session.setting config) (session.machine config) machine) :
    machine.pc ≤ session.program.size ∧
    (∀ frame ∈ machine.frames, ∀ pc ∈ frame.returnPc, pc ≤ session.program.size) ∧
    (∀ fault, machine.status = .faulted fault → fault.pc ≤ session.program.size) ∧
    (machine.isRunning = true → ∀ fault,
      (machine.step (session.setting config)).status = .faulted fault →
      fault.pc = machine.pc ∧ fault.pc = (machine.step (session.setting config)).pc ∧
        fault.pc < session.program.size) ∧
    ∀ name, session.program.get? machine.pc ≠ some (.labelMarker name) := by
  obtain ⟨sound, entries⟩ := created.bounded
  have inside := Machine.Inside.of_reaches sound entries reached
  refine ⟨inside.pc, ?_, inside.fault, ?_, sound.no_label_marker machine.pc⟩
  · obtain ⟨outermost, inner, order, bottom, -, called⟩ := inside.stacked.outermost_first
    intro frame member pc returns
    rw [Machine.frames, order] at member
    rcases List.mem_cons.1 member with rfl | above
    · rw [bottom] at returns
      cases returns
    · exact Machine.return_pc_le_size (called frame above) returns
  · intro running fault faulted
    obtain ⟨here, stays, within⟩ := Machine.fault_of_step running faulted
    exact ⟨here, here.trans stays.symm, here ▸ within⟩

namespace Session

/-- Where nothing is declared, the table of an image holds the labels of its program. -/
theorem of_image_of_program {program : Program} (checked : Image.checkProgram program = .ok ())
    (name : String) :
    ofImage name (.ofProgram program []) {} = .ok ⟨name, program, .ofProgram program, []⟩ := by
  simp only [ofImage, Image.ofProgram, checked]
  rfl

/-- An image may hold labels that differ by an `@` only. They share one name in the table, where the
later one counts. -/
def collidingProgram : Program :=
  .ofParts
    [.call (some "r") ⟨"f", true, some 2⟩, .ret (some (.variable "r")), .ret none,
      .goto ⟨"end", false, 4⟩]
    [("f", 2), ("@f", 3), ("end", 4)]

def collidingSession : Session :=
  ⟨"image", collidingProgram, .ofProgram collidingProgram, []⟩

theorem colliding_session_restored :
    ofImage "image" (.ofProgram collidingProgram []) {} = .ok collidingSession :=
  of_image_of_program (by decide +kernel) "image"

theorem program_counter_of_colliding_session :
    ofImage "image" (.ofProgram collidingProgram []) {} = .ok collidingSession ∧
      ((collidingSession.machine {}).run (collidingSession.setting {}) 2).pc = 4 ∧
      4 ≤ collidingProgram.size ∧
      ((collidingSession.machine {}).run (collidingSession.setting {}) 4).status =
        .faulted ⟨.unboundVariable "r", 1⟩ ∧ 1 < collidingProgram.size := by
  have created : collidingSession.Created := .image colliding_session_restored
  have ended : ((collidingSession.machine {}).run (collidingSession.setting {}) 2).pc = 4 := by
    decide +kernel
  have stopped : ((collidingSession.machine {}).run (collidingSession.setting {}) 4).status =
      .faulted ⟨.unboundVariable "r", 1⟩ := by decide +kernel
  obtain ⟨inside, -⟩ := program_counter_stays_inside created {} (.run .origin 2)
  obtain ⟨-, -, -, faults, -⟩ := program_counter_stays_inside created {} (.run .origin 3)
  have within := (faults (by decide +kernel) ⟨.unboundVariable "r", 1⟩ stopped).2.2
  exact ⟨colliding_session_restored, ended, ended ▸ inside, stopped, within⟩

end Session

end ThreeAddress
