import ThreeAddress.BuildError
import ThreeAddress.Debugger.Command
import ThreeAddress.Declaration
import ThreeAddress.Program

/-!
Everything that can go wrong on the host's side of a program, in one type: errors of building and
running, of files and images, and of arguments and commands, with the place they concern.
-/

namespace ThreeAddress

inductive AccessProblem where
  | missing
  | notADirectory
  | isADirectory
  | nameTooLong
  | nulInName
  | invalidText
  | other (words : String)
  deriving DecidableEq

def AccessProblem.message : AccessProblem → String
  | .missing => "No such file or directory (os error 2)"
  | .notADirectory => "Not a directory (os error 20)"
  | .isADirectory => "Is a directory (os error 21)"
  | .nameTooLong => "File name too long (os error 36)"
  | .nulInName => "file name contained an unexpected NUL byte"
  | .invalidText => "stream did not contain valid UTF-8"
  | .other words => words

inductive FileError where
  | unreadableText (path : String) (problem : AccessProblem)
  | cannotOpen (path : String) (problem : AccessProblem)
  | cannotRead (path : String) (problem : AccessProblem)
  | cannotCreate (path : String) (problem : AccessProblem)
  | other (words : String)
  deriving DecidableEq

def FileError.message : FileError → String
  | .unreadableText path problem => "failed to read " ++ path ++ ": " ++ problem.message
  | .cannotOpen path problem => "failed to open file '" ++ path ++ "': " ++ problem.message
  | .cannotRead path problem => "failed to read file '" ++ path ++ "': " ++ problem.message
  | .cannotCreate path problem => "failed to create file '" ++ path ++ "': " ++ problem.message
  | .other words => words

def imageVersion : Nat := 1

inductive ImageError where
  | malformed
  | unsupportedVersion (version : Nat)
  | invalidProgram (defect : ProgramDefect)
  deriving DecidableEq

def ImageError.message : ImageError → String
  | .malformed => "malformed image"
  | .unsupportedVersion version =>
      "unsupported image version " ++ version.repr ++ " (expected " ++ imageVersion.repr ++ ")"
  | .invalidProgram defect => "invalid program image: " ++ defect.message

inductive ArgumentProblem where
  | argument (error : ArgumentError)
  | command (error : CommandError)
  | other (words : String)
  deriving DecidableEq

def ArgumentProblem.message : ArgumentProblem → String
  | .argument error => error.message
  | .command error => error.message
  | .other words => words

inductive HostProblem where
  | build (error : BuildError)
  | fault (reason : Fault)
  | file (error : FileError)
  | image (error : ImageError)
  | invalidArgument (problem : ArgumentProblem)
  | internal (words : String)
  deriving DecidableEq

def HostProblem.message : HostProblem → String
  | .build error => error.message
  | .fault reason => reason.message
  | .file error => "io error: " ++ error.message
  | .image error => "serialization error: " ++ error.message
  | .invalidArgument problem => "invalid argument: " ++ problem.message
  | .internal words => "internal error: " ++ words

structure ErrorContext where
  source : Option String := none
  line : Option Nat := none
  deriving DecidableEq

/-- The source and the line. A line without a source is not shown. -/
def ErrorContext.render (context : ErrorContext) : String :=
  match context.source, context.line with
  | some source, some line => source ++ ":" ++ line.repr
  | some source, none => source
  | none, _ => ""

structure HostError where
  problem : HostProblem
  context : Option ErrorContext := none
  deriving DecidableEq

namespace HostError

def message (error : HostError) : String := error.problem.message

def ofBuildError (name : String) (error : BuildError) : HostError :=
  ⟨.build error, some ⟨some name, some error.line⟩⟩

def ofFault (fault : Fault) : HostError := ⟨.fault fault, none⟩

def ofArgumentError (error : ArgumentError) : HostError :=
  ⟨.invalidArgument (.argument error), none⟩

def ofCommandError (error : CommandError) : HostError := ⟨.invalidArgument (.command error), none⟩

def ofFileError (error : FileError) : HostError := ⟨.file error, none⟩

def ofImageError (error : ImageError) : HostError := ⟨.image error, none⟩

end HostError

end ThreeAddress
