import ThreeAddress.Session

/-!
Files: paths, a directory of files held in memory, and sessions that are loaded from files or stored
in them as images.
-/

namespace ThreeAddress

open Wire (Bytes)

namespace FilePath

/-- The longest path and the longest name in a path, in bytes. -/
def longestPath : Nat := 4095
def longestName : Nat := 255

/-- What stands between the slashes of a path. -/
def steps (path : String) : List String :=
  ((path.toList.splitOnP (· == '/')).map String.ofList).filter (· != "")

/-- The names along a path. A point is no name: it leads nowhere. -/
def names (path : String) : List String := (steps path).filter (· != ".")

def isAbsolute (path : String) : Bool := path.toList.head? == some '/'

def endsInSlash (path : String) : Bool := path.toList.getLast? == some '/'

/-- Finds what makes a text no path at all. -/
def check (path : String) : Except AccessProblem Unit :=
  if path.toList.contains '\x00' then .error .nulInName
  else if path == "" then .error .missing
  else if longestPath < path.utf8ByteSize then .error .nameTooLong
  else .ok ()

/-- What follows the last point of a file's name, unless nothing stands before that point. -/
def extension? (path : String) : Option String :=
  match (names path).getLast? with
  | none | some ".." => none
  | some name =>
      let (tail, head) := name.toList.reverse.span (· != '.')
      match head with
      | _ :: _ :: _ => some (String.ofList tail.reverse)
      | _ => none

/-- Images are told from program text by the extension of the file's name. -/
def isImage (path : String) : Bool :=
  match extension? path with
  | some ending => ending.toLower == "icb"
  | none => false

end FilePath

/-- A directory without directories inside it. -/
structure Directory where
  files : NameMap Bytes
  deriving DecidableEq

namespace Directory

inductive Location where
  | here
  /-- A directory around this one. -/
  | outside
  /-- A name in this directory, which a file may have. -/
  | entry (name : String)
  deriving DecidableEq

/-- Takes one step along a path. Nothing can be reached by name outside of the directory. -/
def follow (directory : Directory) (location : Location) (step : String) :
    Except AccessProblem Location :=
  match location with
  | .entry name => .error (if directory.files.contains name then .notADirectory else .missing)
  | .here | .outside =>
      if step == "." then .ok location
      else if step == ".." then .ok .outside
      else if FilePath.longestName < step.utf8ByteSize then .error .nameTooLong
      else if location = .here then .ok (.entry step)
      else .error .missing

def locate (directory : Directory) (path : String) (steps : List String) :
    Except AccessProblem Location :=
  steps.foldlM directory.follow (if FilePath.isAbsolute path then .outside else .here)

def read (directory : Directory) (path : String) : Except AccessProblem Bytes := do
  FilePath.check path
  match ← directory.locate path (FilePath.steps path) with
  | .here | .outside => .error .isADirectory
  | .entry name =>
      match directory.files.find? name with
      | none => .error .missing
      | some bytes => if FilePath.endsInSlash path then .error .notADirectory else .ok bytes

/-- Replaces a file or creates it. If a slash follows the last name, that name is not even looked
up: it could only be the name of a directory. -/
def write (directory : Directory) (path : String) (bytes : Bytes) :
    Except AccessProblem Directory := do
  FilePath.check path
  let steps := FilePath.steps path
  let steps := if FilePath.endsInSlash path then steps.dropLast ++ ["."] else steps
  match ← directory.locate path steps with
  | .here | .outside => .error .isADirectory
  | .entry name => .ok ⟨directory.files.insert name bytes⟩

end Directory

namespace Session

def textOf (bytes : Bytes) : Except AccessProblem String :=
  match String.fromUTF8? ⟨bytes.toArray⟩ with
  | some text => .ok text
  | none => .error .invalidText

/-- A directory can be opened like an image, but not read. -/
def imageAccessError (path : String) : AccessProblem → FileError
  | .isADirectory => .cannotRead path .isADirectory
  | problem => .cannotOpen path problem

def imageOfFile (path : String) (contents : Except AccessProblem Bytes) : Except HostError Image :=
  match contents with
  | .error problem => .error (.ofFileError (imageAccessError path problem))
  | .ok bytes => (Image.decode bytes).mapError HostError.ofImageError

/-- Makes a session of what reading a file gave, an image or program text by the file's name. -/
def ofFile (path : String) (contents : Except AccessProblem Bytes) (options : SessionOptions) :
    Except HostError Session := do
  if FilePath.isImage path then
    let image ← imageOfFile path contents
    ofImage path image options
  else
    match contents.bind textOf with
    | .error problem => .error (.ofFileError (.unreadableText path problem))
    | .ok source => ofSource path source options

def saveError (path : String) (problem : AccessProblem) : HostError :=
  .ofFileError (.cannotCreate path problem)

end Session

end ThreeAddress
