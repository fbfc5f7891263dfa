import ThreeAddress.HostError
import ThreeAddress.Image.Wire

/-!
Program images: a program with its parameter declarations, stored in the wire format. Writing gives
every record as a map with its fields in a fixed order. Reading decodes first, then compares the
version, then checks the program.
-/

namespace ThreeAddress

structure Image where
  version : Nat
  program : Program
  params : List Declaration
  deriving DecidableEq

namespace Image

open Wire

def ofProgram (program : Program) (params : List Declaration) : Image :=
  ⟨imageVersion, program, params⟩

/-- Program counters on the wire stay below this bound. -/
def pcBound : Nat := 0x10000000000000000

def versionBound : Nat := 0x100000000

/-! ### Writing -/

def writeValue : Value → Bytes
  | .integer number => writeVariant "Int" (writeInteger number.toInt)
  | .text contents => writeVariant "Text" (writeText contents)
  | .globalRef name => writeVariant "GlobalRef" (writeText name)

def writeOperand : Operand → Bytes
  | .variable name => writeVariant "Var" (writeText name)
  | .global name => writeVariant "Global" (writeText name)
  | .literal value => writeVariant "Literal" (writeValue value)

def writeTarget (target : Target) : Bytes :=
  writeRecord [("name", writeText target.name), ("global", writeFlag target.global),
    ("pc", writeNatural target.pc)]

def writeCallee (callee : Callee) : Bytes :=
  writeRecord [("name", writeText callee.name), ("global", writeFlag callee.global),
    ("entry", writeOption writeNatural callee.entry)]

def operatorName : BinaryOperator → String
  | .add => "Add"
  | .sub => "Sub"
  | .mul => "Mul"
  | .div => "Div"
  | .mod => "Mod"
  | .eq => "Eq"
  | .le => "Le"
  | .ge => "Ge"
  | .gt => "Gt"
  | .lt => "Lt"

def polarityName : Polarity → String
  | .ifZero => "IfZero"
  | .ifNonZero => "IfNonZero"

def writeInstruction : Instruction → Bytes
  | .assign dest value =>
      writeVariant "Assign" (writeRecord [("dest", writeText dest), ("value", writeOperand value)])
  | .binary dest left operator right =>
      writeVariant "BinaryOp" (writeRecord [("dest", writeText dest), ("lhs", writeOperand left),
        ("op", writeText (operatorName operator)), ("rhs", writeOperand right)])
  | .goto target => writeVariant "Goto" (writeRecord [("target", writeTarget target)])
  | .branch polarity condition target =>
      writeVariant "CondGoto" (writeRecord [("polarity", writeText (polarityName polarity)),
        ("cond", writeOperand condition), ("target", writeTarget target)])
  | .argument value => writeVariant "Arg" (writeRecord [("value", writeOperand value)])
  | .call dest callee =>
      writeVariant "Call" (writeRecord [("dest", writeOption writeText dest),
        ("callee", writeCallee callee)])
  | .ret value => writeVariant "Ret" (writeRecord [("value", writeOption writeOperand value)])
  | .labelMarker name => writeVariant "LabelMarker" (writeRecord [("name", writeText name)])

def writeLabel (label : String × Nat) : Bytes :=
  writeListHeader 2 ++ writeText label.1 ++ writeNatural label.2

def writeIndex (index : NameMap Nat) : Bytes :=
  writeMapHeader index.size ++
    index.entries.flatMap fun entry => writeText entry.1 ++ writeNatural entry.2

def writeProgram (program : Program) : Bytes :=
  writeRecord [("instructions", writeList writeInstruction program.instructions.toList),
    ("labels", writeList writeLabel program.labels), ("label_index", writeIndex program.labelIndex)]

def writeDeclaration (declaration : Declaration) : Bytes :=
  writeListHeader 2 ++ writeText declaration.function ++ writeList writeText declaration.params

def encode (image : Image) : Bytes :=
  writeRecord [("version", writeNatural image.version), ("program", writeProgram image.program),
    ("params", writeList writeDeclaration image.params)]

/-! ### Reading -/

/-- How deep values may be nested in a whole image. -/
def maxNesting : Nat := 1023

def readValue : Reader Value :=
  readVariant ["Int", "Text", "GlobalRef"] fun
    | 0 => fun input => do
        let (number, rest) ← readInteger input
        let value ← Integer.ofInt? number
        return (.integer value, rest)
    | 1 => fun input => (readText input).map fun (contents, rest) => (.text contents, rest)
    | _ => fun input => (readText input).map fun (name, rest) => (.globalRef name, rest)

def readOperand : Reader Operand :=
  readVariant ["Var", "Global", "Literal"] fun
    | 0 => fun input => (readText input).map fun (name, rest) => (.variable name, rest)
    | 1 => fun input => (readText input).map fun (name, rest) => (.global name, rest)
    | _ => fun input => (readValue input).map fun (value, rest) => (.literal value, rest)

abbrev TargetSlots := Option String × Option Bool × Option Nat

def targetFields : Fields TargetSlots where
  names := ["name", "global", "pc"]
  read
    | 0, (name, global, pc) => fill name readText fun name => (some name, global, pc)
    | 1, (name, global, pc) => fill global readFlag fun global => (name, some global, pc)
    | _, (name, global, pc) => fill pc (readNatural pcBound) fun pc => (name, global, some pc)

def readTarget : Reader Target :=
  readRecord targetFields (maxNesting - 5) (none, none, none) fun (name, global, pc) =>
    return ⟨← name, ← global, ← pc⟩

abbrev CalleeSlots := Option String × Option Bool × Option (Option Nat)

def calleeFields : Fields CalleeSlots where
  names := ["name", "global", "entry"]
  read
    | 0, (name, global, entry) => fill name readText fun name => (some name, global, entry)
    | 1, (name, global, entry) => fill global readFlag fun global => (name, some global, entry)
    | _, (name, global, entry) =>
        fill entry (readOption (readNatural pcBound)) fun entry => (name, global, some entry)

def readCallee : Reader Callee :=
  readRecord calleeFields (maxNesting - 5) (none, none, none) fun (name, global, entry) =>
    return ⟨← name, ← global, entry.join⟩

def readOperator : Reader BinaryOperator :=
  readChoice (BinaryOperator.all.map operatorName) fun index => BinaryOperator.all[index]?

def readPolarity : Reader Polarity :=
  readChoice [polarityName .ifZero, polarityName .ifNonZero] fun index =>
    [Polarity.ifZero, Polarity.ifNonZero][index]?

/-- Skipped fields of an instruction's data may be nested this deep. -/
def dataNesting : Nat := maxNesting - 4

def assignFields : Fields (Option String × Option Operand) where
  names := ["dest", "value"]
  read
    | 0, (dest, value) => fill dest readText fun dest => (some dest, value)
    | _, (dest, value) => fill value readOperand fun value => (dest, some value)

def readAssign : Reader Instruction :=
  readRecord assignFields dataNesting (none, none) fun (dest, value) =>
    return .assign (← dest) (← value)

abbrev BinarySlots := Option String × Option Operand × Option BinaryOperator × Option Operand

def binaryFields : Fields BinarySlots where
  names := ["dest", "lhs", "op", "rhs"]
  read
    | 0, (dest, left, operator, right) =>
        fill dest readText fun dest => (some dest, left, operator, right)
    | 1, (dest, left, operator, right) =>
        fill left readOperand fun left => (dest, some left, operator, right)
    | 2, (dest, left, operator, right) =>
        fill operator readOperator fun operator => (dest, left, some operator, right)
    | _, (dest, left, operator, right) =>
        fill right readOperand fun right => (dest, left, operator, some right)

def readBinary : Reader Instruction :=
  readRecord binaryFields dataNesting (none, none, none, none) fun (dest, left, operator, right) =>
    return .binary (← dest) (← left) (← operator) (← right)

def gotoFields : Fields (Option Target) where
  names := ["target"]
  read _ target := fill target readTarget some

def readGoto : Reader Instruction :=
  readRecord gotoFields dataNesting none fun target => return .goto (← target)

abbrev BranchSlots := Option Polarity × Option Operand × Option Target

def branchFields : Fields BranchSlots where
  names := ["polarity", "cond", "target"]
  read
    | 0, (polarity, condition, target) =>
        fill polarity readPolarity fun polarity => (some polarity, condition, target)
    | 1, (polarity, condition, target) =>
        fill condition readOperand fun condition => (polarity, some condition, target)
    | _, (polarity, condition, target) =>
        fill target readTarget fun target => (polarity, condition, some target)

def readBranch : Reader Instruction :=
  readRecord branchFields dataNesting (none, none, none) fun (polarity, condition, target) =>
    return .branch (← polarity) (← condition) (← target)

def argumentFields : Fields (Option Operand) where
  names := ["value"]
  read _ value := fill value readOperand some

def readArgument : Reader Instruction :=
  readRecord argumentFields dataNesting none fun value => return .argument (← value)

def callFields : Fields (Option (Option String) × Option Callee) where
  names := ["dest", "callee"]
  read
    | 0, (dest, callee) => fill dest (readOption readText) fun dest => (some dest, callee)
    | _, (dest, callee) => fill callee readCallee fun callee => (dest, some callee)

def readCall : Reader Instruction :=
  readRecord callFields dataNesting (none, none) fun (dest, callee) =>
    return .call dest.join (← callee)

def retFields : Fields (Option (Option Operand)) where
  names := ["value"]
  read _ value := fill value (readOption readOperand) some

def readRet : Reader Instruction :=
  readRecord retFields dataNesting none fun value => return .ret value.join

def labelMarkerFields : Fields (Option String) where
  names := ["name"]
  read _ name := fill name readText some

def readLabelMarker : Reader Instruction :=
  readRecord labelMarkerFields dataNesting none fun name => return .labelMarker (← name)

def readInstruction : Reader Instruction :=
  readVariant ["Assign", "BinaryOp", "Goto", "CondGoto", "Arg", "Call", "Ret", "LabelMarker"] fun
    | 0 => readAssign
    | 1 => readBinary
    | 2 => readGoto
    | 3 => readBranch
    | 4 => readArgument
    | 5 => readCall
    | 6 => readRet
    | _ => readLabelMarker

/-- Reads the label index. Of two entries with one name the later counts. -/
def readIndex : Reader (NameMap Nat) := fun input =>
  (readEntries readText (readNatural pcBound) input).map fun (entries, rest) =>
    (.ofList entries, rest)

abbrev ProgramSlots :=
  Option (List Instruction) × Option (List (String × Nat)) × Option (NameMap Nat)

def programFields : Fields ProgramSlots where
  names := ["instructions", "labels", "label_index"]
  read
    | 0, (instructions, labels, index) =>
        fill instructions (readList readInstruction) fun instructions =>
          (some instructions, labels, index)
    | 1, (instructions, labels, index) =>
        fill labels (readList (readPair readText (readNatural pcBound))) fun labels =>
          (instructions, some labels, index)
    | _, (instructions, labels, index) =>
        fill index readIndex fun index => (instructions, labels, some index)

def readProgram : Reader Program :=
  readRecord programFields (maxNesting - 2) (none, none, none) fun (instructions, labels, index) =>
    return ⟨(← instructions).toArray, ← labels, ← index⟩

def readDeclaration : Reader Declaration := fun input =>
  (readPair readText (readList readText) input).map fun ((function, params), rest) =>
    (⟨function, params⟩, rest)

abbrev ImageSlots := Option Nat × Option Program × Option (List Declaration)

def imageFields : Fields ImageSlots where
  names := ["version", "program", "params"]
  read
    | 0, (version, program, params) =>
        fill version (readNatural versionBound) fun version => (some version, program, params)
    | 1, (version, program, params) =>
        fill program readProgram fun program => (version, some program, params)
    | _, (version, program, params) =>
        fill params (readList readDeclaration) fun params => (version, program, some params)

def readImage : Reader Image :=
  readRecord imageFields (maxNesting - 1) (none, none, none) fun (version, program, params) =>
    return ⟨← version, ← program, ← params⟩

def checkProgram (program : Program) : Except ImageError Unit :=
  match program.check with
  | .ok () => .ok ()
  | .error defect => .error (.invalidProgram defect)

/-- Reads an image of the current version with a sound program. Bytes after it are ignored. -/
def decode (bytes : Bytes) : Except ImageError Image :=
  match readImage bytes with
  | none => .error .malformed
  | some (image, _) =>
      if image.version = imageVersion then do
        checkProgram image.program
        return image
      else .error (.unsupportedVersion image.version)

end Image

end ThreeAddress
