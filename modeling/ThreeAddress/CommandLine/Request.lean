import ThreeAddress.Debugger.Command

/-!
Requests on the command line. A request names a command, a file and options; `--name value` and
`--name=value` mean the same, and `--` ends the options.
-/

namespace ThreeAddress

inductive OptionValue where
  | nothing
  | text
  | path
  | count
  deriving DecidableEq

/-- Whether a word can be the value of an option. A path cannot be empty. -/
def OptionValue.accepts : OptionValue → String → Bool
  | .nothing, _ => false
  | .text, _ => true
  | .path, word => word != ""
  | .count, word => (Command.readNumber word).isSome

structure OptionShape where
  name : String
  short : Option Char := none
  value : OptionValue := .nothing
  repeats : Bool := false
  /-- Whether the next word is the value even if it looks like an option. -/
  takesAnyWord : Bool := false
  deriving DecidableEq

/-- Why words on the command line make no request of their own. -/
inductive Stop where
  | usage
  | version
  | help
  deriving DecidableEq

/-- The options that were given, in order, and the file. Options without values have empty ones. -/
structure Given where
  options : List (String × String) := []
  file : Option String := none
  deriving DecidableEq

namespace Given

def valuesOf (given : Given) (name : String) : List String :=
  (given.options.filter fun option => option.1 == name).map Prod.snd

def value? (given : Given) (name : String) : Option String := (given.valuesOf name).head?

def has (given : Given) (name : String) : Bool := !(given.valuesOf name).isEmpty

/-- Notes an option. Only some may be given more than once. -/
def add (given : Given) (shape : OptionShape) (value : String) : Except Stop Given :=
  if given.has shape.name && !shape.repeats then .error .usage
  else .ok { given with options := given.options ++ [(shape.name, value)] }

/-- Notes an option with its value, which has to be of the right kind. -/
def addValue (given : Given) (shape : OptionShape) (value : String) : Except Stop Given :=
  if shape.value.accepts value then given.add shape value else .error .usage

/-- Notes a word that belongs to no option. There is one such word, the path of a file. -/
def addFile (given : Given) (word : String) : Except Stop Given :=
  match given.file with
  | some _ => .error .usage
  | none =>
      if OptionValue.path.accepts word then .ok { given with file := some word }
      else .error .usage

/-- The kinds of words, told apart by how they begin. -/
inductive Word where
  | ending
  | long (name : String) (attached : Option String)
  | short (letter : Char) (attached : Option String)
  | plain (text : String)
  deriving DecidableEq

def Word.ofText (text : String) : Word :=
  match text.toList with
  | ['-', '-'] => .ending
  | '-' :: '-' :: rest =>
      match rest.span (· != '=') with
      | (name, []) => .long (String.ofList name) none
      | (name, _ :: value) => .long (String.ofList name) (some (String.ofList value))
  | ['-', letter] => .short letter none
  | '-' :: letter :: '=' :: value => .short letter (some (String.ofList value))
  | '-' :: letter :: value => .short letter (some (String.ofList value))
  | _ => .plain text

def looksPlain (text : String) : Bool :=
  match Word.ofText text with
  | .plain _ => true
  | _ => false

/-- Takes in the words after a command's name, one after another: help is given as soon as it is
asked for, unless the words before it already make no sense. -/
def read (shapes : List OptionShape) (given : Given) : List String → Except Stop Given
  | [] => .ok given
  | word :: rest =>
      let take (shape : OptionShape) (attached : Option String) : Except Stop Given :=
        match shape.value, attached, rest with
        | .nothing, none, rest => do
            let given ← given.add shape ""
            read shapes given rest
        | .nothing, some _, _ => .error .usage
        | _, some value, rest => do
            let given ← given.addValue shape value
            read shapes given rest
        | _, none, value :: rest =>
            if shape.takesAnyWord || looksPlain value then do
              let given ← given.addValue shape value
              read shapes given rest
            else .error .usage
        | _, none, [] => .error .usage
      match Word.ofText word with
      | .ending => rest.foldlM addFile given
      | .long "help" none => .error .help
      | .long name attached =>
          match shapes.find? fun shape => shape.name == name with
          | some shape => take shape attached
          | none => .error .usage
      | .short 'h' _ => .error .help
      | .short letter attached =>
          match shapes.find? fun shape => shape.short == some letter with
          | some shape => take shape attached
          | none => .error .usage
      | .plain text => do
          let given ← given.addFile text
          read shapes given rest

end Given

structure LoadRequest where
  file : String
  params : List String
  withPrelude : Bool
  deriving DecidableEq

structure RunRequest where
  load : LoadRequest
  entry : Option String
  stepLimit : Option Nat
  arguments : List String
  deriving DecidableEq

inductive Request where
  | run (request : RunRequest)
  | check (request : LoadRequest)
  | format (request : LoadRequest)
  | compile (request : LoadRequest) (output : String)
  | debug (request : RunRequest)
  deriving DecidableEq

namespace Request

def traceShape : OptionShape := { name := "trace" }

def loadShapes : List OptionShape :=
  [traceShape, { name := "params", value := .text, repeats := true }, { name := "prelude" }]

def runShapes : List OptionShape :=
  loadShapes ++
    [{ name := "entry", value := .text }, { name := "step-limit", value := .count },
      { name := "arg", value := .text, repeats := true, takesAnyWord := true }]

def compileShapes : List OptionShape :=
  loadShapes ++ [{ name := "output", short := some 'o', value := .path }]

def required {α : Type} : Option α → Except Stop α
  | some value => .ok value
  | none => .error .usage

def loadOf (given : Given) : Except Stop LoadRequest := do
  let file ← required given.file
  return ⟨file, given.valuesOf "params", given.has "prelude"⟩

def runOf (given : Given) : Except Stop RunRequest := do
  let load ← loadOf given
  let stepLimit := (given.value? "step-limit").bind Command.readNumber
  return ⟨load, given.value? "entry", stepLimit, given.valuesOf "arg"⟩

def commandNames : List String := ["run", "check", "fmt", "compile", "debug", "help"]

/-- There is help on the program and on each command. Commands have no commands of their own. -/
def helpOn : List String → Stop
  | [] => .help
  | [name] => if commandNames.contains name then .help else .usage
  | _ => .usage

/-- Reads the words after the name of a command. -/
def ofCommand (name : String) (words : List String) : Except Stop Request :=
  match name with
  | "run" => do
      let given ← Given.read runShapes {} words
      return .run (← runOf given)
  | "check" => do
      let given ← Given.read loadShapes {} words
      return .check (← loadOf given)
  | "fmt" => do
      let given ← Given.read loadShapes {} words
      return .format (← loadOf given)
  | "compile" => do
      let given ← Given.read compileShapes {} words
      let load ← loadOf given
      let output ← required (given.value? "output")
      return .compile load output
  | "debug" => do
      let given ← Given.read runShapes {} words
      return .debug (← runOf given)
  | "help" => .error (helpOn words)
  | _ => .error .usage

/-- Reads the words of a command line. Before the command only tracing, the version or help can be
asked for. -/
def readWords (tracing : Bool) : List String → Except Stop Request
  | [] => .error .usage
  | word :: rest =>
      match Given.Word.ofText word with
      | .long "trace" none => if tracing then .error .usage else readWords true rest
      | .long "version" none | .short 'V' _ => .error .version
      | .long "help" none | .short 'h' _ => .error .help
      | .plain name => ofCommand name rest
      | _ => .error .usage

def read (words : List String) : Except Stop Request := readWords false words

def load : Request → LoadRequest
  | .run request | .debug request => request.load
  | .check request | .format request | .compile request _ => request

end Request

end ThreeAddress
