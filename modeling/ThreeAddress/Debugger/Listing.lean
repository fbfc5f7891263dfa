import ThreeAddress.Machine
import ThreeAddress.Text.Blank

/-!
What the debugger shows of a machine: its position, its variables, its call stack, its pending
arguments and the instructions around the program counter.
-/

namespace ThreeAddress.Listing

def joinLines (lines : List String) : String := "\n".intercalate lines

/-- Where a running machine stands, or how a terminal one stopped. -/
def position (program : Program) (machine : Machine) : String :=
  match machine.status with
  | .running =>
      "pc " ++ machine.pc.repr ++ ": " ++
        match program.get? machine.pc with
        | some instruction => instruction.render
        | none => "<end of program>"
  | status => status.render ++ " after " ++ machine.steps.repr ++ " steps"

def binding (name : String) (value : Value) : String := name ++ " = " ++ value.render

def variableLine (machine : Machine) (name : String) : String :=
  match machine.binding? name with
  | some value => binding name value
  | none => name ++ " is unbound"

def locals (machine : Machine) : String :=
  match machine.frame.environment.entries with
  | [] => "no locals"
  | entries => joinLines (entries.map fun (name, value) => binding name value)

def frameLine (depth : Nat) (frame : Frame) : String :=
  "#" ++ depth.repr ++ " " ++ frame.function ++
    match frame.returnPc with
    | some pc => " (returns to pc " ++ pc.repr ++ ")"
    | none => " (entry)"

def frames (machine : Machine) : String :=
  joinLines ((machine.frame :: machine.callers).zipIdx.map fun (frame, depth) => frameLine depth frame)

def pendingArguments (machine : Machine) : String :=
  match machine.pending with
  | [] => "no pending arguments"
  | values => ", ".intercalate (values.map Value.render)

/-- The number of instructions shown on either side of the program counter. -/
def context : Nat := 4

def column (number : Nat) : String :=
  let digits := number.repr
  String.ofList (List.replicate (4 - digits.length) ' ') ++ digits

def instructionLines (program : Program) (breakpoints : List Nat) (current pc : Nat) : List String :=
  (program.labelsAt pc).map (fun label => "          " ++ label ++ ":") ++
    (program.get? pc).toList.map fun instruction =>
      (if pc = current then "=>" else "  ") ++ (if breakpoints.contains pc then "*" else " ") ++
        " " ++ column pc ++ "    " ++ instruction.render

/-- The instructions around the program counter, which is marked, with their labels and
breakpoints. -/
def surroundings (program : Program) (breakpoints : List Nat) (current : Nat) : String :=
  let first := current - context
  let stop := min (current + context + 1) program.size
  let shown := (List.range' first (stop - first)).flatMap
    (instructionLines program breakpoints current)
  let ending := if program.size ≤ current then ["=>  " ++ column current ++ "    <end of program>"]
    else []
  String.ofList (Text.trimEnd (joinLines (shown ++ ending)).toList)

end ThreeAddress.Listing
