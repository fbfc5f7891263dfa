import ThreeAddress.Debugger.Listing
import ThreeAddress.Session

/-!
The debugger: a machine that commands move forward and back. A command that moves the machine
forward first keeps a snapshot of it, and `back` returns to the latest one.
-/

namespace ThreeAddress

structure Debugger where
  session : Session
  config : Config
  machine : Machine
  /-- The snapshots, latest first. -/
  history : List Machine
  /-- The program counters to stop at, ascending. -/
  breakpoints : List Nat

inductive Reply where
  | text (words : String)
  | quit
  deriving DecidableEq

namespace Debugger

/-- The number of snapshots kept. Older ones are forgotten. -/
def maxHistory : Nat := 1024

def ofSession (session : Session) (config : Config) : Debugger :=
  ⟨session, config, session.machine config, [], []⟩

def setting (debugger : Debugger) : Setting := debugger.session.setting debugger.config

def position (debugger : Debugger) : String :=
  Listing.position debugger.session.program debugger.machine

def snapshot (debugger : Debugger) : Debugger :=
  { debugger with history := (debugger.machine :: debugger.history).take maxHistory }

def step (debugger : Debugger) (count : Nat) : Debugger :=
  { debugger.snapshot with machine := debugger.machine.run debugger.setting count }

def atBreakpoint (debugger : Debugger) (machine : Machine) : Bool :=
  debugger.breakpoints.contains machine.pc

/-- Takes one step and then runs on to the next breakpoint or the end, for at most `fuel` steps. -/
def resume (debugger : Debugger) (fuel : Nat) : Debugger :=
  let stepped := debugger.machine.step debugger.setting
  { debugger.snapshot with
    machine := stepped.runUntil debugger.setting debugger.atBreakpoint fuel }

/-- The program counter that a number or a label stands for. It lies in the program or at its
end. -/
def resolve (program : Program) (target : String) : Except CommandError Nat := do
  let pc ← match Command.readNumber target with
    | some pc => .ok pc
    | none =>
        match program.label? (Text.bareName target) with
        | some pc => .ok pc
        | none => .error (.unknownLabel target)
  if program.size < pc then .error (.pastEnd pc program.size) else return pc

/-- Adds a number to an ascending list that may already hold it. -/
def insertAscending (number : Nat) : List Nat → List Nat
  | [] => [number]
  | first :: rest =>
      if number < first then number :: first :: rest
      else if number = first then first :: rest
      else first :: insertAscending number rest

/-- Performs a command. What it is answered with stands beside the debugger afterwards, also where it
is refused. -/
def perform (debugger : Debugger) (fuel : Nat) : Command → Except CommandError Reply × Debugger
  | .step count =>
      let moved := debugger.step count
      (.ok (.text moved.position), moved)
  | .resume =>
      let moved := debugger.resume fuel
      let note := if moved.machine.isRunning then "breakpoint: " else ""
      (.ok (.text (note ++ moved.position)), moved)
  | .setBreak target =>
      match resolve debugger.session.program target with
      | .error error => (.error error, debugger)
      | .ok pc =>
          (.ok (.text ("breakpoint at pc " ++ pc.repr)),
            { debugger with breakpoints := insertAscending pc debugger.breakpoints })
  | .clearBreak target =>
      match resolve debugger.session.program target with
      | .error error => (.error error, debugger)
      | .ok pc =>
          -- Removing comes first; whether there was anything to remove decides the answer.
          let cleared :=
            { debugger with breakpoints := debugger.breakpoints.filter (· != pc) }
          if debugger.breakpoints.contains pc then
            (.ok (.text ("deleted breakpoint at pc " ++ pc.repr)), cleared)
          else (.error (.noBreakpoint pc), cleared)
  | .print name => (.ok (.text (Listing.variableLine debugger.machine name)), debugger)
  | .locals => (.ok (.text (Listing.locals debugger.machine)), debugger)
  | .frames => (.ok (.text (Listing.frames debugger.machine)), debugger)
  | .arguments => (.ok (.text (Listing.pendingArguments debugger.machine)), debugger)
  | .list =>
      (.ok (.text (Listing.surroundings debugger.session.program debugger.breakpoints
        debugger.machine.pc)), debugger)
  | .back =>
      match debugger.history with
      | [] => (.error .noEarlierState, debugger)
      | previous :: earlier =>
          let moved := { debugger with machine := previous, history := earlier }
          (.ok (.text moved.position), moved)
  | .reset =>
      let moved := { debugger with
        machine := debugger.session.machine debugger.config
        history := [] }
      (.ok (.text moved.position), moved)
  | .help => (.ok (.text Command.helpText), debugger)
  | .quit => (.ok .quit, debugger)

def execute (debugger : Debugger) (fuel : Nat) (line : String) :
    Except CommandError Reply × Debugger :=
  match Command.read line with
  | .ok command => debugger.perform fuel command
  | .error error => (.error error, debugger)

def completions (debugger : Debugger) : List String :=
  Command.names ++ debugger.session.program.labels.map Prod.fst

end Debugger

end ThreeAddress
