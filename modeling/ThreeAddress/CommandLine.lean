import ThreeAddress.CommandLine.Request
import ThreeAddress.Debugger.Dialogue
import ThreeAddress.Directory
import ThreeAddress.Text.Backspace

/-!
The command line. What a request does depends only on what its file holds and what its user types;
the reading and writing of files is left to whoever carries it out, and `carryOut` does so in a
directory held in memory.
-/

namespace ThreeAddress

/-- What a command leaves behind: its exit code and what it wrote. -/
structure Report where
  code : Nat
  stdout : String
  stderr : String
  deriving DecidableEq

namespace Report

def ok (stdout : String) : Report := ⟨0, stdout, ""⟩

/-- The line that reports an error, in red, after the place it concerns. -/
def errorLine (error : HostError) : String :=
  let place := match error.context with
    | some context => context.render ++ ": "
    | none => ""
  "\x1b[31merror: " ++ place ++ error.message ++ "\x1b[0m\n"

def ofError (error : HostError) : Report := ⟨1, "", errorLine error⟩

def version : String := "icvm 0.1.0\n"

def usage : String := "usage: icvm [--trace] <run|check|fmt|compile|debug> [options] FILE\n"

def ofStop : Stop → Report
  | .version => ok version
  | .help => ok usage
  | .usage => ⟨2, "", usage⟩

end Report

namespace Request

/-- The host options of a request. Declarations are read before the file is. -/
def optionsOf (request : LoadRequest) : Except HostError SessionOptions := do
  let params ← (request.params.mapM Declaration.read).mapError HostError.ofArgumentError
  return ⟨params, request.withPrelude⟩

def configOf (request : RunRequest) : Except HostError Config := do
  let arguments ← (request.arguments.mapM Value.read).mapError HostError.ofArgumentError
  let config : Config := { stepLimit := request.stepLimit, arguments := arguments }
  return match request.entry with
    | some name => config.withEntry name
    | none => config

def session (request : LoadRequest) (contents : Except AccessProblem Wire.Bytes) :
    Except HostError Session := do
  let options ← optionsOf request
  Session.ofFile request.file contents options

def runReport (request : RunRequest) (contents : Except AccessProblem Wire.Bytes) (fuel : Nat) :
    Except HostError Report := do
  let session ← session request.load contents
  let config ← configOf request
  match session.run? config fuel with
  | none => .error ⟨.internal "out of fuel", none⟩
  | some (.error error) => .error error
  | some (.ok (some value)) => return .ok (value.render ++ "\n")
  | some (.ok none) => return .ok "(no value)\n"

def checkReport (session : Session) : Report :=
  .ok (session.name ++ ": ok (" ++ session.program.size.repr ++ " instructions, " ++
    session.program.labels.length.repr ++ " labels)\n")

def debugger (request : RunRequest) (contents : Except AccessProblem Wire.Bytes) :
    Except HostError Debugger := do
  let session ← session request.load contents
  let config ← configOf request
  return .ofSession session config

/-- The lines of an input, as they stand once the backspaces in them are applied. A line break may
have a carriage return before it, and the last line may lack one. -/
def inputLines (input : String) : List String :=
  let lines := input.toList.splitOnP (· == '\n')
  let whole := lines.dropLast.map fun line => if line.getLast? = some '\r' then line.dropLast else line
  let remainder := (lines.getLast?.filter fun line => !line.isEmpty).toList
  (whole ++ remainder).map fun line => String.ofList (Text.applyBackspaces line)

def shown : Printed → String
  | .prompt => Dialogue.defaultPrompt
  | .reply text => text ++ "\n"
  | .complaint _ => ""

def complained : Printed → String
  | .complaint text => text ++ "\n"
  | _ => ""

def debugReport (debugger : Debugger) (fuel : Nat) (input : String) : Report :=
  let transcript := Dialogue.run debugger fuel ((inputLines input).map Read.line)
  ⟨0, String.join (transcript.printed.map shown), String.join (transcript.printed.map complained)⟩

def compileReport (path : String) : Report := .ok ("wrote " ++ path ++ "\n")

def carryOut (request : Request) (directory : Directory) (fuel : Nat) (input : String) :
    Except HostError (Report × Directory) := do
  let contents := directory.read request.load.file
  match request with
  | .run request => return (← runReport request contents fuel, directory)
  | .check request => return (checkReport (← session request contents), directory)
  | .format request => return (.ok (← session request contents).program.render, directory)
  | .compile request output =>
      let session ← session request contents
      match directory.write output session.toImage.encode with
      | .ok directory => return (compileReport output, directory)
      | .error problem => .error (Session.saveError output problem)
  | .debug request => return (debugReport (← debugger request contents) fuel input, directory)

end Request

/-- Carries out the words of a command line on the files of a directory, with the given input for
the debugger. -/
def commandLine (words : List String) (directory : Directory) (fuel : Nat) (input : String) :
    Report × Directory :=
  match Request.read words with
  | .error stop => (.ofStop stop, directory)
  | .ok request =>
      match request.carryOut directory fuel input with
      | .ok result => result
      | .error error => (.ofError error, directory)

end ThreeAddress
