import ThreeAddress.CommandLine

/-!
The program itself: reads and writes files, prints, and holds the debugger's dialogue.
-/

namespace ThreeAddress.Terminal

/-- Programs may run for this many steps, which is as good as forever. -/
def patience : Nat := 0x4000000000000000

/-- The problem with the given error number. -/
def numberedProblem (number : Nat) (details : String) : AccessProblem :=
  match number with
  | 2 => .missing
  | 20 => .notADirectory
  | 21 => .isADirectory
  | 36 => .nameTooLong
  | _ => .other (details ++ " (os error " ++ number.repr ++ ")")

def accessProblem (error : IO.Error) : AccessProblem :=
  match error with
  | .noFileOrDirectory _ code details | .permissionDenied _ code details
  | .inappropriateType _ code details | .invalidArgument _ code details =>
      numberedProblem code.toNat details
  | other => .other (toString other)

def readFile (path : String) : IO (Except AccessProblem Wire.Bytes) := do
  try
    let contents ← IO.FS.readBinFile path
    return .ok contents.toList
  catch error => return .error (accessProblem error)

def writeFile (path : String) (bytes : Wire.Bytes) : IO (Except AccessProblem Unit) := do
  try
    IO.FS.writeBinFile path ⟨bytes.toArray⟩
    return .ok ()
  catch error => return .error (accessProblem error)

def finish (report : Report) : IO UInt32 := do
  IO.print report.stdout
  IO.eprint report.stderr
  return UInt32.ofNat report.code

def orReport {α : Type} (result : Except HostError α) (next : α → IO UInt32) : IO UInt32 :=
  match result with
  | .ok value => next value
  | .error error => finish (.ofError error)

def emit (printed : Printed) : IO Unit := do
  IO.print (Request.shown printed)
  IO.eprint (Request.complained printed)
  (← IO.getStdout).flush

/-- Asks for lines until the dialogue is over or the input ends. -/
partial def converse (dialogue : Dialogue) : IO Unit := do
  emit .prompt
  let input ← (← IO.getStdin).getLine
  for line in Request.inputLines input do
    let (dialogue, printed, finished) := dialogue.feed patience line
    printed.forM emit
    unless finished do converse dialogue

def compile (session : Session) (output : String) : IO UInt32 := do
  match ← writeFile output session.toImage.encode with
  | .ok () => finish (Request.compileReport output)
  | .error problem => finish (.ofError (Session.saveError output problem))

def carryOut (request : Request) : IO UInt32 := do
  let contents ← readFile request.load.file
  match request with
  | .run request => orReport (Request.runReport request contents patience) finish
  | .check request =>
      orReport (Request.session request contents) fun session => finish (Request.checkReport session)
  | .format request =>
      orReport (Request.session request contents) fun session => finish (.ok session.program.render)
  | .compile request output =>
      orReport (Request.session request contents) fun session => compile session output
  | .debug request =>
      orReport (Request.debugger request contents) fun debugger => do
        (Dialogue.banner debugger).forM emit
        converse (.ofDebugger debugger)
        return 0

end ThreeAddress.Terminal

def main (words : List String) : IO UInt32 :=
  match ThreeAddress.Request.read words with
  | .error stop => ThreeAddress.Terminal.finish (.ofStop stop)
  | .ok request => ThreeAddress.Terminal.carryOut request
