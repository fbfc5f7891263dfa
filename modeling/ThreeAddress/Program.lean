import ThreeAddress.Fault
import ThreeAddress.Instruction
import ThreeAddress.NameMap

/-!
Programs: instructions at consecutive program counters, the labels in the order they were defined,
and an index from label names to program counters. A program from outside may be inconsistent;
`check` finds its first defect, and `WellFormed` says what it means to have none.
-/

namespace ThreeAddress

structure Program where
  instructions : Array Instruction
  labels : List (String × Nat)
  labelIndex : NameMap Nat
  deriving DecidableEq

/-- The ways in which a program can contradict itself. -/
inductive ProgramDefect where
  | labelOutOfRange (name : String) (pc size : Nat)
  | labelIndexMismatch (name : String)
  | labelMarker (name : String) (pc : Nat)
  | badTarget (pc : Nat) (name : String)
  deriving DecidableEq

def ProgramDefect.message : ProgramDefect → String
  | .labelOutOfRange name pc size =>
      "label " ++ quoted name ++ " resolves to pc " ++ pc.repr ++ ", past the end (" ++ size.repr ++
        " instructions)"
  | .labelIndexMismatch name => "label table is inconsistent for " ++ quoted name
  | .labelMarker name pc => "label marker " ++ quoted (name ++ ":") ++ " at pc " ++ pc.repr
  | .badTarget pc name =>
      "instruction at pc " ++ pc.repr ++ " targets " ++ quoted name ++
        ", which does not resolve as recorded"

namespace Program

/-- The program whose label index is the one its label list gives. -/
def ofParts (instructions : List Instruction) (labels : List (String × Nat)) : Program :=
  ⟨instructions.toArray, labels, .ofList labels⟩

def size (program : Program) : Nat := program.instructions.size

def isEmpty (program : Program) : Bool := program.instructions.isEmpty

def get? (program : Program) (pc : Nat) : Option Instruction := program.instructions[pc]?

def label? (program : Program) (name : String) : Option Nat := program.labelIndex.find? name

def labelsAt (program : Program) (pc : Nat) : List String :=
  (program.labels.filter fun label => label.2 == pc).map Prod.fst

def targetResolves (program : Program) (target : Target) : Bool :=
  program.label? target.name == some target.pc

/-- A callee either names a label and has its program counter, or is a global without entry. -/
def calleeResolves (program : Program) (callee : Callee) : Bool :=
  callee.entry == program.label? callee.name &&
    ((program.label? callee.name).isSome || callee.global)

/-- The first defect of the label list, where the names in `seen` have come before. -/
def labelDefect? (program : Program) (seen : List String) :
    List (String × Nat) → Option ProgramDefect
  | [] => none
  | (name, pc) :: rest =>
      if seen.contains name || program.label? name != some pc then some (.labelIndexMismatch name)
      else if program.size < pc then some (.labelOutOfRange name pc program.size)
      else program.labelDefect? (name :: seen) rest

/-- The least name that is indexed without being defined. -/
def strayLabel? (program : Program) : Option ProgramDefect :=
  (program.labelIndex.names.find? fun name => !(program.labels.map Prod.fst).contains name).map
    .labelIndexMismatch

def instructionDefect? (program : Program) (pc : Nat) : Instruction → Option ProgramDefect
  | .labelMarker name => some (.labelMarker name pc)
  | .goto target | .branch _ _ target =>
      if program.targetResolves target then none else some (.badTarget pc target.render)
  | .call _ callee =>
      if program.calleeResolves callee then none else some (.badTarget pc callee.render)
  | .assign .. | .binary .. | .argument _ | .ret _ => none

/-- The first defect of a program: of its label list, of its label index, then of its
instructions. -/
def defect? (program : Program) : Option ProgramDefect :=
  (program.labelDefect? [] program.labels).or <|
    program.strayLabel?.or <|
      program.instructions.toList.zipIdx.findSome? fun (instruction, pc) =>
        program.instructionDefect? pc instruction

def check (program : Program) : Except ProgramDefect Unit :=
  match program.defect? with
  | some defect => .error defect
  | none => .ok ()

/-- What the printed form of a program says of one program counter: the labels that stand there,
each on a line of its own, and the instruction, indented. -/
def linesAt (program : Program) (pc : Nat) : List String :=
  (program.labelsAt pc).map (· ++ ":") ++
    (program.get? pc).toList.map fun instruction => "    " ++ instruction.render

def render (program : Program) : String :=
  String.join (((List.range (program.size + 1)).flatMap program.linesAt).map (· ++ "\n"))

end Program

/-- An instruction refers to labels exactly as the label index records them. -/
def Instruction.Resolved (labels : NameMap Nat) : Instruction → Prop
  | .labelMarker _ => False
  | .goto target | .branch _ _ target => labels.find? target.name = some target.pc
  | .call _ callee =>
      callee.entry = labels.find? callee.name ∧
        (labels.find? callee.name = none → callee.global = true)
  | .assign .. | .binary .. | .argument _ | .ret _ => True

/-- Labels are distinct, stand inside the program or at its end, and make up the whole index; and
every instruction is resolved. -/
structure Program.WellFormed (program : Program) : Prop where
  distinct : (program.labels.map Prod.fst).Nodup
  indexed : program.labelIndex = .ofList program.labels
  bounded : ∀ label ∈ program.labels, label.2 ≤ program.size
  resolved : ∀ instruction ∈ program.instructions, instruction.Resolved program.labelIndex

end ThreeAddress
