import Mathlib.Data.List.Forall2
import ThreeAddress.Proofs.CallIsolation
import ThreeAddress.Proofs.Linking

/-!
Machines that run the same code at different program counters. Two settings correspond when related
program counters hold the same instruction up to the program counters in it; machines that
correspond then stay so with every step, and differ in program counters only.
-/

namespace ThreeAddress

variable {related : Nat → Nat → Prop}

/-- The same instruction at `pc` and at `other`. Its targets are related, and so are the program
counters after it if control can get there. -/
inductive Instruction.Moved (related : Nat → Nat → Prop) (pc other : Nat) :
    Instruction → Instruction → Prop where
  | assign (dest : String) (value : Operand) (next : related (pc + 1) (other + 1)) :
      Moved related pc other (.assign dest value) (.assign dest value)
  | binary (dest : String) (left : Operand) (operator : BinaryOperator) (right : Operand)
      (next : related (pc + 1) (other + 1)) :
      Moved related pc other (.binary dest left operator right) (.binary dest left operator right)
  | goto {target landing : Target} (landed : related target.pc landing.pc) :
      Moved related pc other (.goto target) (.goto landing)
  | branch (polarity : Polarity) (condition : Operand) {target landing : Target}
      (landed : related target.pc landing.pc) (next : related (pc + 1) (other + 1)) :
      Moved related pc other (.branch polarity condition target) (.branch polarity condition landing)
  | argument (value : Operand) (next : related (pc + 1) (other + 1)) :
      Moved related pc other (.argument value) (.argument value)
  | call (dest : Option String) {callee called : Callee} (named : callee.name = called.name)
      (next : related (pc + 1) (other + 1)) :
      Moved related pc other (.call dest callee) (.call dest called)
  | ret (value : Option Operand) : Moved related pc other (.ret value) (.ret value)

inductive Global.Moved (related : Nat → Nat → Prop) : Global → Global → Prop where
  | function {entry other : Nat} (params : List String) (entered : related entry other) :
      Moved related (.function ⟨entry, params⟩) (.function ⟨other, params⟩)
  | native (native : Native) : Moved related (.native native) (.native native)
  | value (value : Value) : Moved related (.value value) (.value value)

structure Program.Moved (related : Nat → Nat → Prop) (program other : Program) : Prop where
  fetched : ∀ {pc elsewhere}, related pc elsewhere →
    Option.Rel (Instruction.Moved related pc elsewhere) (program.get? pc) (other.get? elsewhere)
  labels : ∀ name, Option.Rel related (program.label? name) (other.label? name)

def GlobalTable.Moved (related : Nat → Nat → Prop) (table other : GlobalTable) : Prop :=
  ∀ name, Option.Rel (Global.Moved related) (table.entries.find? name) (other.entries.find? name)

structure Setting.Moved (related : Nat → Nat → Prop) (setting other : Setting) : Prop where
  program : Program.Moved related setting.program other.program
  globals : GlobalTable.Moved related setting.globals other.globals
  stepLimit : setting.stepLimit = other.stepLimit
  maxDepth : setting.maxDepth = other.maxDepth

structure Frame.Moved (related : Nat → Nat → Prop) (frame other : Frame) : Prop where
  function : frame.function = other.function
  returnPc : Option.Rel related frame.returnPc other.returnPc
  environment : frame.environment = other.environment
  dest : frame.dest = other.dest

inductive Status.Moved (related : Nat → Nat → Prop) : Status → Status → Prop where
  | running : Moved related .running .running
  | halted (value : Option Value) : Moved related (.halted value) (.halted value)
  | faulted (kind : FaultKind) {pc other : Nat} (arisen : related pc other) :
      Moved related (.faulted ⟨kind, pc⟩) (.faulted ⟨kind, other⟩)

/-- The machines agree on everything but program counters, which are related. -/
structure Machine.Moved (related : Nat → Nat → Prop) (machine other : Machine) : Prop where
  callers : List.Forall₂ (Frame.Moved related) machine.callers other.callers
  frame : Frame.Moved related machine.frame other.frame
  pending : machine.pending = other.pending
  pc : related machine.pc other.pc
  steps : machine.steps = other.steps
  status : Status.Moved related machine.status other.status
  unclaimed : machine.unclaimed = other.unclaimed

theorem is_some_eq_of_rel {α β : Type} {matched : α → β → Prop} {left : Option α} {right : Option β}
    (both : Option.Rel matched left right) : left.isSome = right.isSome := by
  cases both <;> rfl

theorem GlobalTable.Moved.get {table other : GlobalTable} (tables : Moved related table other)
    (name : String) : Option.Rel (Global.Moved related) (table.get? name) (other.get? name) :=
  tables (Text.bareName name)

theorem Frame.Moved.receive {frame other : Frame} (moved : Frame.Moved related frame other)
    (dest : Option String) (value : Option Value) :
    Frame.Moved related (frame.receive dest value) (other.receive dest value) := by
  unfold Frame.receive
  split
  · rename_i name carried
    refine ⟨moved.function, moved.returnPc, ?_, moved.dest⟩
    exact congrArg (NameMap.insert · name carried) moved.environment
  · exact moved

theorem Machine.assign_to_pc (machine : Machine) (dest : Option String) (value : Value) :
    (machine.assignTo dest value).pc = machine.pc := by
  cases dest with
  | none => rfl
  | some name => rfl

namespace Machine.Moved

variable {machine other : Machine} {setting elsewhere : Setting}

theorem depth_eq (moved : Moved related machine other) : machine.depth = other.depth := by
  rw [depth, depth, moved.callers.length_eq]

theorem running_eq (moved : Moved related machine other) : machine.isRunning = other.isRunning := by
  have same := moved.status
  rw [Machine.isRunning, Machine.isRunning]
  generalize machine.status = status at same ⊢
  generalize other.status = otherStatus at same ⊢
  cases same <;> rfl

theorem evaluate_eq (settings : Setting.Moved related setting elsewhere)
    (moved : Moved related machine other) (operand : Operand) :
    machine.evaluate setting operand = other.evaluate elsewhere operand := by
  rcases operand with name | name | value
  · rw [evaluate, evaluate, binding?, binding?, moved.frame.environment]
  · have found := settings.globals.get name
    have known : (setting.program.label? name).isSome = (elsewhere.program.label? name).isSome :=
      is_some_eq_of_rel (settings.program.labels name)
    rw [evaluate, evaluate, known]
    generalize setting.globals.get? name = here at found ⊢
    generalize elsewhere.globals.get? name = there at found ⊢
    cases found with
    | none => rfl
    | some held => cases held <;> rfl
  · rfl

theorem fail (moved : Moved related machine other) (kind : FaultKind) :
    Moved related (machine.fail kind) (other.fail kind) :=
  { moved with status := .faulted kind moved.pc }

theorem moveTo (moved : Moved related machine other) {pc landing : Nat}
    (landed : related pc landing) : Moved related (machine.moveTo pc) (other.moveTo landing) :=
  { moved with pc := landed }

theorem advance (moved : Moved related machine other)
    (next : related (machine.pc + 1) (other.pc + 1)) :
    Moved related machine.advance other.advance := moved.moveTo next

theorem assign (moved : Moved related machine other) (name : String) (value : Value) :
    Moved related (machine.assign name value) (other.assign name value) := by
  have frame := moved.frame.receive (some name) (some value)
  exact { moved with frame := frame }

theorem assignTo (moved : Moved related machine other) (dest : Option String) (value : Value) :
    Moved related (machine.assignTo dest value) (other.assignTo dest value) := by
  cases dest with
  | none => exact moved
  | some name => exact moved.assign name value

theorem withValue (settings : Setting.Moved related setting elsewhere)
    (moved : Moved related machine other) (operand : Operand)
    {continuation onward : Value → Machine}
    (continued : ∀ value, Moved related (continuation value) (onward value)) :
    Moved related (machine.withValue setting operand continuation)
      (other.withValue elsewhere operand onward) := by
  rw [Machine.withValue, Machine.withValue, evaluate_eq settings moved operand]
  cases other.evaluate elsewhere operand with
  | ok value => exact continued value
  | error kind => exact moved.fail kind

theorem returnWith (moved : Moved related machine other) (value : Option Value) :
    Moved related (machine.returnWith value) (other.returnWith value) := by
  have frames := moved.callers
  cases callers : machine.callers with
  | nil =>
      rw [callers] at frames
      have none : other.callers = [] := List.forall₂_nil_left_iff.1 frames
      rw [Machine.returnWith, Machine.returnWith, callers, none]
      exact { moved with callers := .nil, status := .halted value }
  | cons outer below =>
      rw [callers] at frames
      obtain ⟨otherOuter, otherBelow, same, rest, otherCallers⟩ := List.forall₂_cons_left_iff.1 frames
      rw [return_with_of_callers callers, return_with_of_callers otherCallers, moved.frame.dest]
      have resumed : related (machine.frame.returnPc.getD machine.pc)
          (other.frame.returnPc.getD other.pc) := by
        have returns := moved.frame.returnPc
        generalize machine.frame.returnPc = here at returns ⊢
        generalize other.frame.returnPc = there at returns ⊢
        cases returns with
        | none => exact moved.pc
        | some landed => exact landed
      exact { moved with callers := rest, frame := same.receive _ value, pc := resumed }

theorem call (settings : Setting.Moved related setting elsewhere)
    (moved : Moved related machine other) (dest : Option String) {callee called : Callee}
    (named : callee.name = called.name) (next : related (machine.pc + 1) (other.pc + 1)) :
    Moved related (machine.call setting dest callee) (other.call elsewhere dest called) := by
  have spent : Moved related { machine with pending := [] } { other with pending := [] } :=
    { moved with pending := rfl }
  have found := settings.globals.get called.name
  unfold Machine.call
  rw [named, moved.pending, settings.maxDepth]
  dsimp only
  generalize setting.globals.get? called.name = here at found ⊢
  generalize elsewhere.globals.get? called.name = there at found ⊢
  cases found with
  | none => exact spent.fail _
  | some held =>
      cases held with
      | value value => exact spent.fail _
      | native native =>
          dsimp only
          cases native.call other.pending with
          | error kind => exact spent.fail kind
          | ok value =>
              apply (spent.assignTo dest value).advance
              rw [assign_to_pc, assign_to_pc]
              exact next
      | function params entered =>
          dsimp only
          rw [spent.depth_eq]
          by_cases matched : other.pending.length ≠ params.length
          · rw [if_pos matched, if_pos matched]
            exact spent.fail _
          · rw [if_neg matched, if_neg matched]
            split
            · exact spent.fail _
            · exact { spent with
                callers := .cons moved.frame moved.callers
                frame := ⟨rfl, .some next, rfl, rfl⟩
                pc := entered }

theorem execute {instruction landed : Instruction} (settings : Setting.Moved related setting elsewhere)
    (moved : Moved related machine other)
    (same : Instruction.Moved related machine.pc other.pc instruction landed) :
    Moved related (machine.execute setting instruction) (other.execute elsewhere landed) := by
  cases same with
  | assign dest value next =>
      apply withValue settings moved
      intro value
      exact (moved.assign dest value).advance next
  | binary dest left operator right next =>
      apply withValue settings moved
      intro first
      apply withValue settings moved
      intro second
      cases operator.apply first second with
      | ok value => exact (moved.assign dest value).advance next
      | error kind => exact moved.fail kind
  | goto landed => exact moved.moveTo landed
  | branch polarity condition landed next =>
      apply withValue settings moved
      intro value
      cases value with
      | integer number =>
          dsimp only
          split
          · exact moved.moveTo landed
          · exact moved.advance next
      | text contents => exact moved.fail _
      | globalRef name => exact moved.fail _
  | argument value next =>
      apply withValue settings moved
      intro value
      have pushed : Moved related { machine with pending := machine.pending ++ [value] }
          { other with pending := other.pending ++ [value] } :=
        { moved with pending := congrArg (· ++ [value]) moved.pending }
      exact pushed.advance next
  | call dest named next => exact call settings moved dest named next
  | ret value =>
      cases value with
      | none => exact moved.returnWith none
      | some operand =>
          apply withValue settings moved
          intro value
          exact moved.returnWith (some value)

theorem proceed (settings : Setting.Moved related setting elsewhere)
    (moved : Moved related machine other) :
    Moved related (machine.proceed setting) (other.proceed elsewhere) := by
  have counted : Moved related { machine with steps := other.steps + 1 }
      { other with steps := other.steps + 1 } := { moved with steps := rfl }
  have fetched := settings.program.fetched moved.pc
  rw [Machine.proceed, Machine.proceed, settings.stepLimit, moved.steps]
  generalize setting.program.get? machine.pc = here at fetched ⊢
  generalize elsewhere.program.get? other.pc = there at fetched ⊢
  cases fetched with
  | none => exact moved.returnWith none
  | some same =>
      dsimp only
      cases elsewhere.stepLimit with
      | none => exact execute settings counted same
      | some limit =>
          dsimp only
          split
          · exact moved.fail _
          · exact execute settings counted same

theorem step (settings : Setting.Moved related setting elsewhere)
    (moved : Moved related machine other) :
    Moved related (machine.step setting) (other.step elsewhere) := by
  rw [Machine.step, Machine.step, moved.running_eq]
  split
  · exact proceed settings moved
  · exact moved

theorem run (settings : Setting.Moved related setting elsewhere)
    (moved : Moved related machine other) (count : Nat) :
    Moved related (machine.run setting count) (other.run elsewhere count) := by
  induction count with
  | zero => exact moved
  | succ count induction =>
      rw [run_succ_eq_step, run_succ_eq_step]
      exact step settings induction

end Machine.Moved

namespace GlobalTable

theorem Moved.insert {table other : GlobalTable} (tables : Moved related table other)
    (name : String) {global landed : Global} (corresponds : Global.Moved related global landed) :
    Moved related ⟨table.entries.insert name global⟩ ⟨other.entries.insert name landed⟩ := by
  intro key
  rw [NameMap.find_insert, NameMap.find_insert]
  split
  · exact .some corresponds
  · exact tables key

theorem Moved.defineFunction {table other : GlobalTable} (tables : Moved related table other)
    (name : String) {entry landing : Nat} (entered : related entry landing) (params : List String) :
    Moved related (table.defineFunction name entry params)
      (other.defineFunction name landing params) :=
  tables.insert (Text.bareName name) (.function params entered)

theorem moved_of_program {program other : Program} (programs : Program.Moved related program other)
    (indexed : program.labelIndex = .ofList program.labels)
    (otherIndexed : other.labelIndex = .ofList other.labels)
    (bare : ∀ label ∈ program.labels, Text.bareName label.1 = label.1)
    (otherBare : ∀ label ∈ other.labels, Text.bareName label.1 = label.1) :
    Moved related (ofProgram program) (ofProgram other) := by
  intro key
  rw [find_of_program indexed bare, find_of_program otherIndexed otherBare]
  have found := programs.labels key
  generalize program.label? key = here at found ⊢
  generalize other.label? key = there at found ⊢
  cases found with
  | none => exact .none
  | some landed => exact .some (.function [] landed)

end GlobalTable

/-- What a host calls to give a function of the program its parameters: either binds the function to
its label anew or changes it in place. -/
inductive ParamsCall where
  | bind (function : String) (params : List String)
  | change (function : String) (params : List String)
  deriving DecidableEq

def ParamsCall.apply (program : Program) (table : GlobalTable) :
    ParamsCall → Except GlobalError GlobalTable
  | .bind function params => table.bindFunction program function params
  | .change function params => table.setParams function params

def GlobalTable.declare (program : Program) (table : GlobalTable) :
    List ParamsCall → Except GlobalError GlobalTable
  | [] => .ok table
  | call :: calls =>
      match call.apply program table with
      | .ok table => table.declare program calls
      | .error error => .error error

theorem ParamsCall.apply_moved {program other : Program} (programs : Program.Moved related program other)
    {table elsewhere after : GlobalTable} (tables : GlobalTable.Moved related table elsewhere)
    {call : ParamsCall} (applied : call.apply program table = .ok after) :
    ∃ otherAfter, call.apply other elsewhere = .ok otherAfter ∧
      GlobalTable.Moved related after otherAfter := by
  cases call with
  | bind function params =>
      have found := programs.labels (Text.bareName function)
      simp only [apply, GlobalTable.bindFunction] at applied ⊢
      generalize program.label? (Text.bareName function) = here at found applied
      generalize other.label? (Text.bareName function) = there at found ⊢
      cases found with
      | none => cases applied
      | some landed =>
          cases applied
          exact ⟨_, rfl, tables.defineFunction _ landed params⟩
  | change function params =>
      have found := tables (Text.bareName function)
      simp only [apply, GlobalTable.setParams] at applied ⊢
      generalize table.entries.find? (Text.bareName function) = here at found applied
      generalize elsewhere.entries.find? (Text.bareName function) = there at found ⊢
      cases found with
      | none => cases applied
      | some held =>
          cases held with
          | native native => cases applied
          | value value => cases applied
          | function before entered =>
              cases applied
              exact ⟨_, rfl, tables.insert _ (.function params entered)⟩

theorem GlobalTable.declare_moved {program other : Program}
    (programs : Program.Moved related program other) {calls : List ParamsCall}
    {table elsewhere globals : GlobalTable} (tables : Moved related table elsewhere)
    (declared : table.declare program calls = .ok globals) :
    ∃ others, elsewhere.declare other calls = .ok others ∧ Moved related globals others := by
  induction calls generalizing table elsewhere with
  | nil =>
      cases declared
      exact ⟨elsewhere, rfl, tables⟩
  | cons call calls induction =>
      cases applied : call.apply program table with
      | error error =>
          rw [declare, applied] at declared
          cases declared
      | ok after =>
          rw [declare, applied] at declared
          obtain ⟨otherAfter, otherApplied, continued⟩ := ParamsCall.apply_moved programs tables applied
          rw [declare, otherApplied]
          exact induction continued declared

namespace Machine

/-- The machines were given the wrong number of arguments for their entry. They stand at the first
instruction with nothing bound, and the fault names the entry. -/
def Refused (related : Nat → Nat → Prop) (machine other : Machine) : Prop :=
  ∃ name expected actual pc landing, related pc landing ∧
    machine = { blank [] with status := .faulted ⟨.arity name expected actual, pc⟩ } ∧
    other = { blank [] with status := .faulted ⟨.arity name expected actual, landing⟩ }

structure Lockstep (related : Nat → Nat → Prop) (setting elsewhere : Setting)
    (machine other : Machine) : Prop where
  moved : machine.isRunning = true →
    ∀ count, Moved related (machine.run setting count) (other.run elsewhere count)
  refused : machine.isRunning = false →
    ∀ count, Refused related (machine.run setting count) (other.run elsewhere count)

theorem entry_of_moved {program other : Program} {globals elsewhere : GlobalTable}
    (programs : Program.Moved related program other)
    (tables : GlobalTable.Moved related globals elsewhere) (name : String) :
    Option.Rel (fun entry landing : FunctionEntry =>
        entry.params = landing.params ∧ related entry.entry landing.entry)
      (entryOf? program globals name) (entryOf? other elsewhere name) := by
  have labelled : Option.Rel (fun entry landing : FunctionEntry =>
        entry.params = landing.params ∧ related entry.entry landing.entry)
      ((program.label? name).map (⟨·, []⟩)) ((other.label? name).map (⟨·, []⟩)) := by
    have found := programs.labels name
    generalize program.label? name = here at found ⊢
    generalize other.label? name = there at found ⊢
    cases found with
    | none => exact .none
    | some landed => exact .some ⟨rfl, landed⟩
  have found := tables.get name
  rw [entryOf?, entryOf?, GlobalTable.function?, GlobalTable.function?]
  generalize globals.get? name = here at found ⊢
  generalize elsewhere.get? name = there at found ⊢
  cases found with
  | none => exact labelled
  | some held =>
      cases held with
      | function params entered => exact .some ⟨rfl, entered⟩
      | native native => exact labelled
      | value value => exact labelled

theorem entry_of_is_some {program : Program} (globals : GlobalTable) {name : String}
    (known : (program.label? name).isSome = true) :
    (entryOf? program globals name).isSome = true := by
  rw [entryOf?]
  split
  · rfl
  · rw [Option.isSome_map]
    exact known

theorem find_entry_moved {program other : Program} {globals elsewhere : GlobalTable}
    (programs : Program.Moved related program other)
    (tables : GlobalTable.Moved related globals elsewhere) {entry : Option String}
    (named : ∀ name ∈ entry, (program.label? name).isSome = true)
    (unnamed : entry = none → (program.label? "main").isSome = true ∨ related 0 0) :
    ∃ name start landing, findEntry program globals entry = .ok (name, start) ∧
      findEntry other elsewhere entry = .ok (name, landing) ∧ start.params = landing.params ∧
      related start.entry landing.entry := by
  cases entry with
  | some name =>
      have found := entry_of_moved programs tables name
      have known := entry_of_is_some globals (named name rfl)
      rw [findEntry, findEntry]
      generalize entryOf? program globals name = here at found known ⊢
      generalize entryOf? other elsewhere name = there at found ⊢
      cases found with
      | none => cases known
      | some landed => exact ⟨name, _, _, rfl, rfl, landed⟩
  | none =>
      have found := entry_of_moved programs tables "main"
      have known := (unnamed rfl).imp_left (entry_of_is_some globals)
      rw [findEntry, findEntry]
      generalize entryOf? program globals "main" = here at found known ⊢
      generalize entryOf? other elsewhere "main" = there at found ⊢
      cases found with
      | none =>
          refine ⟨topLevel, ⟨0, []⟩, ⟨0, []⟩, rfl, rfl, rfl, known.resolve_left ?_⟩
          nofun
      | some landed => exact ⟨"main", _, _, rfl, rfl, landed⟩

theorem start_lockstep {setting elsewhere : Setting} {config : Config} {name : String}
    {entry landing : FunctionEntry} (settings : Setting.Moved related setting elsewhere)
    (found : findEntry setting.program setting.globals config.entry = .ok (name, entry))
    (otherFound : findEntry elsewhere.program elsewhere.globals config.entry = .ok (name, landing))
    (params : entry.params = landing.params) (entered : related entry.entry landing.entry) :
    Lockstep related setting elsewhere (start setting.program setting.globals config)
      (start elsewhere.program elsewhere.globals config) := by
  rw [start, start, found, otherFound]
  dsimp only
  rw [params]
  split
  · have begun : Moved related
        { blank [] with
          frame := ⟨name, none, Frame.bind landing.params config.arguments, none⟩
          pc := entry.entry }
        { blank [] with
          frame := ⟨name, none, Frame.bind landing.params config.arguments, none⟩
          pc := landing.entry } :=
      ⟨.nil, ⟨rfl, .none, rfl, rfl⟩, rfl, entered, rfl, .running, rfl⟩
    exact ⟨fun running => Moved.run settings begun, nofun⟩
  · refine ⟨nofun, fun stopped count => ?_⟩
    rw [run, run, run_until_of_terminal _ _ _ rfl, run_until_of_terminal _ _ _ rfl]
    exact ⟨_, _, _, _, _, entered, rfl, rfl⟩

end Machine

end ThreeAddress
