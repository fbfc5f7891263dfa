import ThreeAddress.Fault

/-!
The natives: functions that the host provides and a program calls by name. A host may provide any
function of the arguments; the prelude holds a few on integers and texts.
-/

namespace ThreeAddress

structure Native where
  name : String
  arity : Nat
  body : List Value → Except FaultKind Value

namespace Native

/-- Calls a native. The number of arguments is checked before the body runs. -/
def call (native : Native) (arguments : List Value) : Except FaultKind Value :=
  if arguments.length = native.arity then native.body arguments
  else .error (.arity native.name native.arity arguments.length)

theorem call_of_right_count {native : Native} {arguments : List Value}
    (matched : arguments.length = native.arity) :
    native.call arguments = native.body arguments := if_pos matched

theorem call_of_wrong_count {native : Native} {arguments : List Value}
    (wrong : arguments.length ≠ native.arity) :
    native.call arguments = .error (.arity native.name native.arity arguments.length) :=
  if_neg wrong

theorem call_eq_error_iff {native : Native} {arguments : List Value} {kind : FaultKind} :
    native.call arguments = .error kind ↔
      arguments.length = native.arity ∧ native.body arguments = .error kind ∨
        arguments.length ≠ native.arity ∧
          kind = .arity native.name native.arity arguments.length := by
  by_cases matched : arguments.length = native.arity
  · simp [call_of_right_count matched, matched]
  · simp [call_of_wrong_count matched, matched, eq_comm]

def expectInteger (name : String) : Value → Except FaultKind Integer
  | .integer number => .ok number
  | other => .error (.typeMismatch .integer other.kind (.native name))

def expectText (name : String) : Value → Except FaultKind String
  | .text contents => .ok contents
  | other => .error (.typeMismatch .text other.kind (.native name))

def absolute (number : Integer) : Except FaultKind Value :=
  match Integer.ofInt? (Int.ofNat number.toInt.natAbs) with
  | some result => .ok (.integer result)
  | none => .error (.arithmetic .absoluteOverflow)

def textLength (contents : String) : Except FaultKind Value :=
  match Integer.ofInt? (Int.ofNat contents.length) with
  | some result => .ok (.integer result)
  | none => .error (.arithmetic .lengthOverflow)

def unary (name : String) (body : Value → Except FaultKind Value) : Native :=
  { name := name
    arity := 1
    body := fun
      | [value] => body value
      | arguments => .error (.arity name 1 arguments.length) }

def binary (name : String) (body : Value → Value → Except FaultKind Value) : Native :=
  { name := name
    arity := 2
    body := fun
      | [left, right] => body left right
      | arguments => .error (.arity name 2 arguments.length) }

def abs : Native :=
  unary "abs" fun value => do
    let number ← expectInteger "abs" value
    absolute number

def min : Native :=
  binary "min" fun left right => do
    let first ← expectInteger "min" left
    let second ← expectInteger "min" right
    return .integer (if first ≤ second then first else second)

def max : Native :=
  binary "max" fun left right => do
    let first ← expectInteger "max" left
    let second ← expectInteger "max" right
    return .integer (if first ≤ second then second else first)

def strlen : Native :=
  unary "strlen" fun value => do
    let contents ← expectText "strlen" value
    textLength contents

def concat : Native :=
  binary "concat" fun left right => do
    let first ← expectText "concat" left
    let second ← expectText "concat" right
    return .text (first ++ second)

def itoa : Native :=
  unary "itoa" fun value => do
    let number ← expectInteger "itoa" value
    return .text (Text.renderInteger number.toInt)

/-- The natives every host has, in the order in which they are installed. -/
def prelude : List Native := [abs, min, max, strlen, concat, itoa]

def ofName? (word : String) : Option Native := prelude.find? fun native => native.name == word

end Native

end ThreeAddress
