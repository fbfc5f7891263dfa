import ThreeAddress.Assembly
import ThreeAddress.Image
import ThreeAddress.Machine

/-!
Sessions: a program linked with the declarations and natives a host wants it to have, ready to run,
to be debugged or to be stored as an image.
-/

namespace ThreeAddress

structure SessionOptions where
  params : List Declaration := []
  withPrelude : Bool := false
  deriving DecidableEq

structure Session where
  name : String
  program : Program
  globals : GlobalTable
  params : List Declaration

namespace Session

/-- Adds the natives whose names are not taken. -/
def addPrelude (table : GlobalTable) : GlobalTable :=
  Native.prelude.foldl
    (fun table native => if table.contains native.name then table else table.defineNative native)
    table

/-- Gives functions their declared parameters, in the order of the declarations. -/
def declare (program : Program) (table : GlobalTable) :
    List Declaration → Except ArgumentError GlobalTable
  | [] => .ok table
  | declaration :: rest =>
      match table.bindFunction program declaration.function declaration.params with
      | .ok table => declare program table rest
      | .error _ => .error (.unknownFunction declaration.function)

/-- Links a program: its labels, then the natives if they are wanted, then the declarations. -/
def link (name : String) (program : Program) (options : SessionOptions) :
    Except HostError Session :=
  let labels := GlobalTable.ofProgram program
  let table := if options.withPrelude then addPrelude labels else labels
  match declare program table options.params with
  | .ok globals => .ok ⟨name, program, globals, options.params⟩
  | .error error => .error (.ofArgumentError error)

/-- The names a program may call without defining them. -/
def externals (options : SessionOptions) : List String :=
  if options.withPrelude then Native.prelude.map Native.name else []

def ofSource (name source : String) (options : SessionOptions) : Except HostError Session :=
  match Program.ofSource (externals options) source with
  | .ok program => link name program options
  | .error error => .error (.ofBuildError name error)

/-- Links the program of an image. The declarations in the image come before the host's own. -/
def ofImage (name : String) (image : Image) (options : SessionOptions) : Except HostError Session :=
  match Image.checkProgram image.program with
  | .ok () => link name image.program { options with params := image.params ++ options.params }
  | .error error => .error (.ofImageError error)

def toImage (session : Session) : Image := .ofProgram session.program session.params

def setting (session : Session) (config : Config) : Setting :=
  .ofConfig session.program session.globals config

def machine (session : Session) (config : Config) : Machine :=
  .start session.program session.globals config

/-- Runs the program for at most `fuel` steps; there is no outcome if it needs more. -/
def run? (session : Session) (config : Config) (fuel : Nat) :
    Option (Except HostError (Option Value)) :=
  ((session.machine config).run (session.setting config) fuel).outcome?.map
    (Except.mapError HostError.ofFault)

end Session

def runSource? (source : String) (config : Config) (fuel : Nat) :
    Option (Except HostError (Option Value)) :=
  match Program.ofSource [] source with
  | .error error => some (.error ⟨.build error, none⟩)
  | .ok program =>
      let globals := GlobalTable.ofProgram program
      ((Machine.start program globals config).run (.ofConfig program globals config) fuel).outcome?.map
        (Except.mapError HostError.ofFault)

end ThreeAddress
