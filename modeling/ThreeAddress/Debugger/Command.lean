import ThreeAddress.Fault
import ThreeAddress.Text.Blank

/-!
The commands of the debugger. A command line holds a command's name or its short form and at most
one operand.
-/

namespace ThreeAddress

inductive Command where
  | step (count : Nat)
  | resume
  | setBreak (target : String)
  | clearBreak (target : String)
  | print (name : String)
  | locals
  | frames
  | arguments
  | list
  | back
  | reset
  | help
  | quit
  deriving DecidableEq

inductive CommandError where
  | extraOperand (extra command : String)
  | badCount (operand : String)
  | missingOperand (command what : String)
  | unknownCommand (name : String)
  | unknownLabel (target : String)
  | pastEnd (pc size : Nat)
  | noBreakpoint (pc : Nat)
  | noEarlierState
  deriving DecidableEq

def CommandError.message : CommandError → String
  | .extraOperand extra command => "unexpected " ++ quoted extra ++ " after " ++ quoted command
  | .badCount operand => "step count must be a number, got " ++ quoted operand
  | .missingOperand command what => quoted command ++ " needs " ++ what
  | .unknownCommand name => "unknown command " ++ quoted name ++ " (try " ++ quoted "help" ++ ")"
  | .unknownLabel target => "no label " ++ quoted target
  | .pastEnd pc size =>
      "pc " ++ pc.repr ++ " is past the end of the program (" ++ size.repr ++ " instructions)"
  | .noBreakpoint pc => "no breakpoint at pc " ++ pc.repr
  | .noEarlierState => "no earlier state"

namespace Command

def names : List String :=
  ["step", "continue", "break", "delete", "print", "locals", "frames", "args", "list", "back",
    "reset", "help", "quit"]

def helpText : String :=
  "commands:\n" ++
  "  step [n]         (s)  execute n instructions (default 1)\n" ++
  "  continue         (c)  run to the next breakpoint or the end\n" ++
  "  break <label|pc> (b)  set a breakpoint\n" ++
  "  delete <label|pc>     remove a breakpoint\n" ++
  "  print <var>      (p)  show a variable in the current frame\n" ++
  "  locals                show every variable in the current frame\n" ++
  "  frames          (bt)  show the call stack, innermost first\n" ++
  "  args                  show arguments pushed since the last call\n" ++
  "  list             (l)  show instructions around the pc\n" ++
  "  back                  undo the last step or continue\n" ++
  "  reset                 restart from the entry point\n" ++
  "  help             (h)  show this help\n" ++
  "  quit             (q)  leave the debugger\n" ++
  "an empty line repeats the previous command"

/-- Program counters and counts typed by a user stay below this bound. -/
def numberBound : Nat := 0x10000000000000000

def readNumber (word : String) : Option Nat := Text.readBelow numberBound word.toList

def require (command what : String) : Option String → Except CommandError String
  | some operand => .ok operand
  | none => .error (.missingOperand command what)

/-- The command a name and its operand stand for. Commands without operands ignore theirs. -/
def ofWords (name : String) (operand : Option String) : Except CommandError Command :=
  match name with
  | "step" | "s" =>
      match operand with
      | none => .ok (.step 1)
      | some word =>
          match readNumber word with
          | some count => .ok (.step count)
          | none => .error (.badCount word)
  | "continue" | "c" => .ok .resume
  | "break" | "b" => return .setBreak (← require name "a label or pc" operand)
  | "delete" | "d" => return .clearBreak (← require name "a label or pc" operand)
  | "print" | "p" => return .print (← require name "a variable name" operand)
  | "locals" => .ok .locals
  | "frames" | "bt" => .ok .frames
  | "args" => .ok .arguments
  | "list" | "l" => .ok .list
  | "back" => .ok .back
  | "reset" => .ok .reset
  | "help" | "h" | "?" => .ok .help
  | "quit" | "q" => .ok .quit
  | other => .error (.unknownCommand other)

def read (line : String) : Except CommandError Command :=
  match (Text.words line.toList).map String.ofList with
  | [] => ofWords "" none
  | [name] => ofWords name none
  | [name, operand] => ofWords name (some operand)
  | name :: _ :: extra :: _ => .error (.extraOperand extra name)

end Command

end ThreeAddress
