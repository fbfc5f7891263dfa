import ThreeAddress.Debugger

/-!
The dialogue between a user and the debugger. Lines are read one after another and executed; a
blank line repeats the last line that was answered with text; `quit` or the end of input ends it.
-/

namespace ThreeAddress

/-- What an attempt to read a line can give. Nothing more to read is the end of input. -/
inductive Read where
  | line (text : String)
  | interrupt
  | failure (error : HostError)
  deriving DecidableEq

/-- What appears during a dialogue: the prompt before every read, and lines of output for the user
or for the user's errors. -/
inductive Printed where
  | prompt
  | reply (text : String)
  | complaint (text : String)
  deriving DecidableEq

structure Dialogue where
  debugger : Debugger
  /-- The line that a blank one repeats. -/
  lastLine : Option String
  /-- The lines that can be recalled, in the order they were read. -/
  recalled : List String

namespace Dialogue

def defaultPrompt : String := "(icvm) "

def ofDebugger (debugger : Debugger) : Dialogue := ⟨debugger, none, []⟩

def banner (debugger : Debugger) : List Printed :=
  [.reply ("debugging " ++ debugger.session.name ++ " (" ++ debugger.session.program.size.repr ++
      " instructions); type " ++ quoted "help" ++ " for commands"),
    .reply debugger.position]

def complain (error : HostError) : Printed :=
  .complaint ("\x1b[31mError: " ++ error.message ++ "\x1b[0m")

/-- Executes a line that is not blank, or the one a blank line repeats. The flag says whether the
dialogue is over. -/
def answer (dialogue : Dialogue) (fuel : Nat) (line : String) : Dialogue × List Printed × Bool :=
  match dialogue.debugger.execute fuel line with
  | (.ok (.text words), debugger) =>
      ({ dialogue with debugger := debugger, lastLine := some line }, [.reply words], false)
  | (.ok .quit, debugger) => ({ dialogue with debugger := debugger }, [], true)
  | (.error error, debugger) =>
      ({ dialogue with debugger := debugger }, [complain (.ofCommandError error)], false)

def isBlankLine (line : String) : Bool := line.toList.all Text.isBlank

def feed (dialogue : Dialogue) (fuel : Nat) (line : String) : Dialogue × List Printed × Bool :=
  if isBlankLine line then
    match dialogue.lastLine with
    | some previous => dialogue.answer fuel previous
    | none => (dialogue, [], false)
  else { dialogue with recalled := dialogue.recalled ++ [line] }.answer fuel line

/-- A dialogue that is over: where it ended, what it printed, and the error that ended it if
reading failed. -/
structure Transcript where
  dialogue : Dialogue
  printed : List Printed
  failure : Option HostError

def Transcript.reads (transcript : Transcript) : Nat := transcript.printed.count .prompt

def Transcript.precede (printed : List Printed) (transcript : Transcript) : Transcript :=
  { transcript with printed := printed ++ transcript.printed }

/-- Takes in the given reads and then the end of input. -/
def follow (dialogue : Dialogue) (fuel : Nat) : List Read → Transcript
  | [] => ⟨dialogue, [.prompt], none⟩
  | .interrupt :: rest => (dialogue.follow fuel rest).precede [.prompt]
  | .failure error :: _ => ⟨dialogue, [.prompt], some error⟩
  | .line text :: rest =>
      match dialogue.feed fuel text with
      | (dialogue, printed, true) => ⟨dialogue, .prompt :: printed, none⟩
      | (dialogue, printed, false) => (dialogue.follow fuel rest).precede (.prompt :: printed)

def run (debugger : Debugger) (fuel : Nat) (reads : List Read) : Transcript :=
  ((ofDebugger debugger).follow fuel reads).precede (banner debugger)

end Dialogue

end ThreeAddress
