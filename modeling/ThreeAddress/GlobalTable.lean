import ThreeAddress.Native
import ThreeAddress.Program

/-!
The global table: what each global name means to a program while it runs. Names are kept without
their `@`, and every operation accepts them with or without it.
-/

namespace ThreeAddress

structure FunctionEntry where
  entry : Nat
  params : List String
  deriving DecidableEq

inductive Global where
  | function (entry : FunctionEntry)
  | native (native : Native)
  | value (value : Value)

def Global.isCallable : Global → Bool
  | .value _ => false
  | .function _ | .native _ => true

inductive GlobalError where
  | unknownLabel (name : String)
  | notAFunction (name : String)
  deriving DecidableEq

def GlobalError.message : GlobalError → String
  | .unknownLabel name => "no label " ++ quoted name ++ " in program"
  | .notAFunction name => "global " ++ quoted ("@" ++ name) ++ " is not a program function"

structure GlobalTable where
  entries : NameMap Global

namespace GlobalTable

def empty : GlobalTable := ⟨.empty⟩

def get? (table : GlobalTable) (name : String) : Option Global :=
  table.entries.find? (Text.bareName name)

def contains (table : GlobalTable) (name : String) : Bool := (table.get? name).isSome

def function? (table : GlobalTable) (name : String) : Option FunctionEntry :=
  match table.get? name with
  | some (.function entry) => some entry
  | _ => none

/-- Gives a name a meaning in place of any it had. -/
def define (table : GlobalTable) (name : String) (global : Global) : GlobalTable :=
  ⟨table.entries.insert (Text.bareName name) global⟩

def defineFunction (table : GlobalTable) (name : String) (entry : Nat) (params : List String) :
    GlobalTable :=
  table.define name (.function ⟨entry, params⟩)

def defineNative (table : GlobalTable) (native : Native) : GlobalTable :=
  table.define native.name (.native native)

def defineValue (table : GlobalTable) (name : String) (value : Value) : GlobalTable :=
  table.define name (.value value)

/-- The table in which every label of a program is a function without parameters. -/
def ofProgram (program : Program) : GlobalTable :=
  program.labels.foldl (fun table label => table.defineFunction label.1 label.2 []) empty

def installPrelude (table : GlobalTable) : GlobalTable := Native.prelude.foldl defineNative table

/-- Defines the function that starts at the label of the same name. -/
def bindFunction (table : GlobalTable) (program : Program) (name : String) (params : List String) :
    Except GlobalError GlobalTable :=
  let bare := Text.bareName name
  match program.label? bare with
  | some entry => .ok (table.defineFunction bare entry params)
  | none => .error (.unknownLabel bare)

def setParams (table : GlobalTable) (name : String) (params : List String) :
    Except GlobalError GlobalTable :=
  let bare := Text.bareName name
  match table.entries.find? bare with
  | some (.function entry) =>
      .ok ⟨table.entries.insert bare (.function { entry with params := params })⟩
  | _ => .error (.notAFunction bare)

def size (table : GlobalTable) : Nat := table.entries.size

def isEmpty (table : GlobalTable) : Bool := table.entries.isEmpty

def names (table : GlobalTable) : List String := table.entries.names

def callableNames (table : GlobalTable) : List String :=
  (table.entries.entries.filter fun entry => entry.2.isCallable).map Prod.fst

end GlobalTable

end ThreeAddress
