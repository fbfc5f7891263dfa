import ThreeAddress.Arithmetic
import ThreeAddress.GlobalTable

/-!
The machine. A setting, fixed for a whole run, holds the program, the global table and the limits;
the machine holds what changes: the executing frame and its suspended callers, the pending
arguments, the program counter, the step count and the status. One step executes one instruction.
A machine that has halted or faulted steps to itself.
-/

namespace ThreeAddress

abbrev Environment := NameMap Value

/-- One activation of a function. Only the outermost frame has nowhere to return to. -/
structure Frame where
  function : String
  returnPc : Option Nat
  environment : Environment
  dest : Option String
  deriving DecidableEq

/-- Binds parameters to arguments by position. A repeated parameter keeps its last argument. -/
def Frame.bind (params : List String) (arguments : List Value) : Environment :=
  .ofList (params.zip arguments)

inductive Status where
  | running
  | halted (value : Option Value)
  | faulted (fault : Fault)
  deriving DecidableEq

namespace Status

def isRunning : Status → Bool
  | .running => true
  | _ => false

def isTerminal (status : Status) : Bool := !status.isRunning

def render : Status → String
  | .running => "running"
  | .halted (some value) => "halted with " ++ value.render
  | .halted none => "halted"
  | .faulted fault => "faulted: " ++ fault.message

end Status

/-- The number of live frames allowed unless the host says otherwise. -/
def defaultMaxDepth : Nat := 1024

structure Config where
  stepLimit : Option Nat := none
  maxDepth : Nat := defaultMaxDepth
  entry : Option String := none
  arguments : List Value := []
  deriving DecidableEq

/-- Names the function to start at, with or without its `@`. -/
def Config.withEntry (config : Config) (name : String) : Config :=
  { config with entry := some (Text.bareName name) }

structure Setting where
  program : Program
  globals : GlobalTable
  stepLimit : Option Nat
  maxDepth : Nat

def Setting.ofConfig (program : Program) (globals : GlobalTable) (config : Config) : Setting :=
  ⟨program, globals, config.stepLimit, config.maxDepth⟩

structure Machine where
  /-- The suspended callers, innermost first. -/
  callers : List Frame
  frame : Frame
  pending : List Value
  pc : Nat
  steps : Nat
  status : Status
  /-- The arguments for the entry that no function has taken. -/
  unclaimed : List Value
  deriving DecidableEq

namespace Machine

def depth (machine : Machine) : Nat := machine.callers.length + 1

/-- The live frames, outermost first. -/
def frames (machine : Machine) : List Frame := machine.callers.reverse ++ [machine.frame]

def binding? (machine : Machine) (name : String) : Option Value :=
  machine.frame.environment.find? name

def isRunning (machine : Machine) : Bool := machine.status.isRunning

def fail (machine : Machine) (kind : FaultKind) : Machine :=
  { machine with status := .faulted ⟨kind, machine.pc⟩ }

def abort (machine : Machine) (kind : FaultKind) : Machine :=
  if machine.isRunning then machine.fail kind else machine

def moveTo (machine : Machine) (pc : Nat) : Machine := { machine with pc := pc }

def advance (machine : Machine) : Machine := machine.moveTo (machine.pc + 1)

def assign (machine : Machine) (name : String) (value : Value) : Machine :=
  { machine with
    frame := { machine.frame with environment := machine.frame.environment.insert name value } }

def assignTo (machine : Machine) (dest : Option String) (value : Value) : Machine :=
  match dest with
  | some name => machine.assign name value
  | none => machine

/-- The name under which code outside any function runs. -/
def topLevel : String := "<top>"

/-- The function a name means as an entry: one in the table, else a label without parameters. -/
def entryOf? (program : Program) (globals : GlobalTable) (name : String) : Option FunctionEntry :=
  match globals.function? name with
  | some entry => some entry
  | none => (program.label? name).map (⟨·, []⟩)

/-- Where to start: at the configured entry if there is one, else at `main`, else at the first
instruction. -/
def findEntry (program : Program) (globals : GlobalTable) :
    Option String → Except FaultKind (String × FunctionEntry)
  | some name =>
      match entryOf? program globals name with
      | some entry => .ok (name, entry)
      | none => .error (.unknownCallee name)
  | none =>
      match entryOf? program globals "main" with
      | some entry => .ok ("main", entry)
      | none => .ok (topLevel, ⟨0, []⟩)

/-- A machine at the first instruction, before its entry is looked up. -/
def blank (arguments : List Value) : Machine :=
  { callers := []
    frame := ⟨topLevel, none, .empty, none⟩
    pending := []
    pc := 0
    steps := 0
    status := .running
    unclaimed := arguments }

/-- A machine at its entry. An unknown entry or a wrong number of arguments leaves it faulted. -/
def start (program : Program) (globals : GlobalTable) (config : Config) : Machine :=
  let machine := blank config.arguments
  match findEntry program globals config.entry with
  | .error kind => machine.fail kind
  | .ok (name, entry) =>
      let machine := { machine with unclaimed := [] }
      if config.arguments.length = entry.params.length then
        { machine with
          frame := ⟨name, none, Frame.bind entry.params config.arguments, none⟩
          pc := entry.entry }
      else
        { machine with
          status := .faulted
            ⟨.arity name entry.params.length config.arguments.length, entry.entry⟩ }

/-- The value of an operand in the executing frame. A global that can be called, or is a label,
stands for a reference to itself. -/
def evaluate (setting : Setting) (machine : Machine) : Operand → Except FaultKind Value
  | .variable name =>
      match machine.binding? name with
      | some value => .ok value
      | none => .error (.unboundVariable name)
  | .global name =>
      match setting.globals.get? name with
      | some (.value value) => .ok value
      | some (.function _) | some (.native _) => .ok (.global name)
      | none =>
          if (setting.program.label? name).isSome then .ok (.global name)
          else .error (.unknownGlobal name)
  | .literal value => .ok value

/-- Enters a function of the program, which returns to the instruction after the current one. -/
def enter (machine : Machine) (name : String) (dest : Option String) (entry : FunctionEntry)
    (arguments : List Value) : Machine :=
  { machine with
    callers := machine.frame :: machine.callers
    frame := ⟨name, some (machine.pc + 1), Frame.bind entry.params arguments, dest⟩
    pc := entry.entry }

/-- Calls a global. The pending arguments are used up even if the call faults. -/
def call (setting : Setting) (machine : Machine) (dest : Option String) (callee : Callee) :
    Machine :=
  let arguments := machine.pending
  let machine := { machine with pending := [] }
  match setting.globals.get? callee.name with
  | some (.function entry) =>
      if arguments.length ≠ entry.params.length then
        machine.fail (.arity callee.name entry.params.length arguments.length)
      else if setting.maxDepth ≤ machine.depth then
        machine.fail (.callDepthExceeded setting.maxDepth)
      else machine.enter callee.name dest entry arguments
  | some (.native native) =>
      match native.call arguments with
      | .ok value => (machine.assignTo dest value).advance
      | .error kind => machine.fail kind
  | some (.value _) | none => machine.fail (.unknownCallee callee.name)

/-- Leaves the executing frame. The caller's destination is bound if there is a value for it; the
outermost frame halts the machine instead. -/
def returnWith (machine : Machine) (value : Option Value) : Machine :=
  match machine.callers with
  | [] => { machine with status := .halted value }
  | caller :: callers =>
      let returning := machine.frame
      let resumed := { machine with callers := callers, frame := caller }
      let bound := match returning.dest, value with
        | some name, some value => resumed.assign name value
        | _, _ => resumed
      match returning.returnPc with
      | some pc => bound.moveTo pc
      | none => bound

/-- Evaluates an operand and goes on with its value, or faults. -/
def withValue (setting : Setting) (machine : Machine) (operand : Operand)
    (continuation : Value → Machine) : Machine :=
  match machine.evaluate setting operand with
  | .ok value => continuation value
  | .error kind => machine.fail kind

def execute (setting : Setting) (machine : Machine) : Instruction → Machine
  | .assign dest value =>
      machine.withValue setting value fun value => (machine.assign dest value).advance
  | .binary dest left operator right =>
      machine.withValue setting left fun left =>
        machine.withValue setting right fun right =>
          match operator.apply left right with
          | .ok value => (machine.assign dest value).advance
          | .error kind => machine.fail kind
  | .goto target => machine.moveTo target.pc
  | .branch polarity condition target =>
      machine.withValue setting condition fun
        | .integer number =>
            if polarity.fires number then machine.moveTo target.pc else machine.advance
        | other => machine.fail (.typeMismatch .integer other.kind (.branch polarity))
  | .argument value =>
      machine.withValue setting value fun value =>
        { machine with pending := machine.pending ++ [value] }.advance
  | .call dest callee => machine.call setting dest callee
  | .ret (some value) => machine.withValue setting value fun value => machine.returnWith (some value)
  | .ret none => machine.returnWith none
  | .labelMarker _ => machine.advance

/-- Executes the instruction at the program counter within the step limit. Past the last
instruction stands an implicit return, which counts as no step. -/
def proceed (setting : Setting) (machine : Machine) : Machine :=
  match setting.program.get? machine.pc with
  | none => machine.returnWith none
  | some instruction =>
      match setting.stepLimit with
      | some limit =>
          if limit ≤ machine.steps then machine.fail (.stepLimitExceeded limit)
          else { machine with steps := machine.steps + 1 }.execute setting instruction
      | none => { machine with steps := machine.steps + 1 }.execute setting instruction

def step (setting : Setting) (machine : Machine) : Machine :=
  if machine.isRunning then machine.proceed setting else machine

/-- Steps until the machine is terminal or `stop` holds, but at most `fuel` times. The test comes
before every step, the first included. -/
def runUntil (setting : Setting) (stop : Machine → Bool) : Nat → Machine → Machine
  | 0, machine => machine
  | fuel + 1, machine =>
      if machine.isRunning && !stop machine then runUntil setting stop fuel (machine.step setting)
      else machine

def run (setting : Setting) (fuel : Nat) (machine : Machine) : Machine :=
  machine.runUntil setting (fun _ => false) fuel

/-- What a terminal machine came to: the value it halted with, if any, or its fault. -/
def outcome? (machine : Machine) : Option (Except Fault (Option Value)) :=
  match machine.status with
  | .running => none
  | .halted value => some (.ok value)
  | .faulted fault => some (.error fault)

theorem frames_length (machine : Machine) : machine.frames.length = machine.depth := by
  simp [frames, depth]

theorem step_of_terminal (setting : Setting) {machine : Machine}
    (terminal : machine.isRunning = false) : machine.step setting = machine := by
  simp [step, terminal]

theorem run_until_of_terminal (setting : Setting) (stop : Machine → Bool) (fuel : Nat)
    {machine : Machine} (terminal : machine.isRunning = false) :
    machine.runUntil setting stop fuel = machine := by
  cases fuel <;> simp [runUntil, terminal]

theorem run_succ (setting : Setting) (fuel : Nat) (machine : Machine) :
    machine.run setting (fuel + 1) = (machine.step setting).run setting fuel := by
  cases running : machine.isRunning with
  | true => simp [run, runUntil, running]
  | false =>
      rw [step_of_terminal setting running]
      simp only [run, run_until_of_terminal setting _ _ running]

/-- A run can be cut in two at any point. -/
theorem run_add (setting : Setting) (first second : Nat) (machine : Machine) :
    machine.run setting (first + second) = (machine.run setting first).run setting second := by
  induction first generalizing machine with
  | zero => simp [run, runUntil]
  | succ first induction =>
      rw [Nat.succ_add, run_succ, run_succ, induction]

theorem run_of_ended (setting : Setting) {machine : Machine} {count fuel : Nat}
    (ended : (machine.run setting count).isRunning = false) (enough : count ≤ fuel) :
    machine.run setting fuel = machine.run setting count := by
  obtain ⟨more, rfl⟩ := Nat.exists_eq_add_of_le enough
  rw [run_add, run, run_until_of_terminal setting _ _ ended]

end Machine

end ThreeAddress
