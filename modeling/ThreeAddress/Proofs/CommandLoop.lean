import ThreeAddress.Debugger.Dialogue
import ThreeAddress.Proofs.Breakpoints

/-!
The dialogue with the debugger is a fold of the execution of lines. Which lines these are is told
from the reads by the answers alone: an interrupt gives none, a blank line gives the most recent
line that was answered with text, and nothing counts after a line that quits. The dialogue's own
register of the line to repeat is not mentioned; that it always holds that line is the invariant
behind the fold.
-/

namespace ThreeAddress

theorem Machine.run_until_of_stopped {setting : Setting} {stop : Machine → Bool} {fuel more : Nat}
    {machine : Machine}
    (stopped : (machine.runUntil setting stop fuel).isRunning = true →
      stop (machine.runUntil setting stop fuel) = true)
    (enough : fuel ≤ more) :
    machine.runUntil setting stop more = machine.runUntil setting stop fuel := by
  induction fuel generalizing machine more with
  | zero =>
      have here : machine.runUntil setting stop more = machine.run setting 0 :=
        run_until_of_first nofun stopped (Nat.zero_le more)
      exact here
  | succ fuel induction =>
      obtain ⟨more, rfl⟩ := Nat.exists_eq_add_of_le' (Nat.le_trans (Nat.le_add_left 1 fuel) enough)
      rw [runUntil] at stopped ⊢
      rw [runUntil]
      split
      · rename_i going
        rw [if_pos going] at stopped
        exact induction stopped (Nat.le_of_succ_le_succ enough)
      · rfl

namespace Debugger

def outcome (debugger : Debugger) (fuel : Nat) (line : String) : Except CommandError Reply :=
  (debugger.execute fuel line).1

def outcomes (fuel : Nat) : Debugger → List String → List (Except CommandError Reply)
  | _, [] => []
  | debugger, line :: lines =>
      debugger.outcome fuel line :: outcomes fuel (debugger.after fuel line) lines

def afterAll (debugger : Debugger) (fuel : Nat) (lines : List String) : Debugger :=
  lines.foldl (fun debugger line => debugger.after fuel line) debugger

def isText : Except CommandError Reply → Bool
  | .ok (.text _) => true
  | _ => false

def lastAnswered (debugger : Debugger) (fuel : Nat) (lines : List String) : Option String :=
  (((lines.zip (debugger.outcomes fuel lines)).filter fun pair => isText pair.2).map
    Prod.fst).getLast?

def upToQuit (fuel : Nat) : Debugger → List String → List String
  | _, [] => []
  | debugger, line :: lines =>
      line :: if debugger.outcome fuel line = .ok .quit then []
        else upToQuit fuel (debugger.after fuel line) lines

/-- Every `continue` among the lines stops by itself. All other commands end anyway. -/
def Terminates (fuel : Nat) : Debugger → List String → Prop
  | _, [] => True
  | debugger, line :: lines =>
      (Command.read line = .ok .resume → (debugger.after fuel line).Settled) ∧
        Terminates fuel (debugger.after fuel line) lines

instance decidableTerminates (fuel : Nat) :
    (debugger : Debugger) → (lines : List String) → Decidable (debugger.Terminates fuel lines)
  | _, [] => .isTrue trivial
  | debugger, line :: lines =>
      have := decidableTerminates fuel (debugger.after fuel line) lines
      inferInstanceAs (Decidable (_ ∧ _))

/-- The line that a read has executed, where `lines` have been before: its own, or, if that is
blank, the most recent one that was answered with text. -/
def lineFor (debugger : Debugger) (fuel : Nat) (lines : List String) : Read → Option String
  | .line text =>
      if Dialogue.isBlankLine text then debugger.lastAnswered fuel lines else some text
  | .interrupt | .failure _ => none

def linesFor (debugger : Debugger) (fuel : Nat) (reads : List Read) : List String :=
  reads.foldl (fun lines read => lines ++ (debugger.lineFor fuel lines read).toList) []

variable {debugger : Debugger} {fuel more : Nat} {line : String} {lines : List String}

theorem outcomes_append (debugger : Debugger) (fuel : Nat) (first second : List String) :
    debugger.outcomes fuel (first ++ second) =
      debugger.outcomes fuel first ++ (debugger.afterAll fuel first).outcomes fuel second := by
  induction first generalizing debugger with
  | nil => rfl
  | cons line lines induction =>
      rw [List.cons_append, outcomes, outcomes, List.cons_append, induction]
      rfl

theorem length_outcomes (debugger : Debugger) (fuel : Nat) (lines : List String) :
    (debugger.outcomes fuel lines).length = lines.length := by
  induction lines generalizing debugger with
  | nil => rfl
  | cons line lines induction => rw [outcomes, List.length_cons, List.length_cons, induction]

theorem after_all_append (debugger : Debugger) (fuel : Nat) (first second : List String) :
    debugger.afterAll fuel (first ++ second) =
      (debugger.afterAll fuel first).afterAll fuel second :=
  List.foldl_append

theorem last_answered_append (debugger : Debugger) (fuel : Nat) (lines : List String)
    (line : String) :
    debugger.lastAnswered fuel (lines ++ [line]) =
      if isText ((debugger.afterAll fuel lines).outcome fuel line) then some line
      else debugger.lastAnswered fuel lines := by
  have paired : (lines ++ [line]).zip (debugger.outcomes fuel (lines ++ [line])) =
      lines.zip (debugger.outcomes fuel lines) ++
        [(line, (debugger.afterAll fuel lines).outcome fuel line)] := by
    rw [outcomes_append, List.zip_append (length_outcomes debugger fuel lines).symm]
    rfl
  rw [lastAnswered, paired, List.filter_append, List.map_append, List.getLast?_append]
  cases given : isText ((debugger.afterAll fuel lines).outcome fuel line) with
  | true => simp [given]
  | false => simp [given, lastAnswered]

/-- Lines of which none quits are not cut. -/
theorem up_to_quit_append (going : .ok .quit ∉ debugger.outcomes fuel lines)
    (rest : List String) :
    debugger.upToQuit fuel (lines ++ rest) =
      lines ++ (debugger.afterAll fuel lines).upToQuit fuel rest := by
  induction lines generalizing debugger with
  | nil => rfl
  | cons line lines induction =>
      rw [outcomes, List.mem_cons, not_or] at going
      rw [List.cons_append, upToQuit, if_neg (Ne.symm going.1), induction going.2]
      rfl

theorem up_to_quit_of_quit (going : .ok .quit ∉ debugger.outcomes fuel lines)
    (quits : (debugger.afterAll fuel lines).outcome fuel line = .ok .quit) (rest : List String) :
    debugger.upToQuit fuel (lines ++ line :: rest) = lines ++ [line] := by
  rw [up_to_quit_append going, upToQuit, if_pos quits]

theorem up_to_quit_of_going (going : .ok .quit ∉ debugger.outcomes fuel lines) :
    debugger.upToQuit fuel lines = lines := by
  have whole := up_to_quit_append going []
  rwa [List.append_nil, upToQuit, List.append_nil] at whole

theorem Terminates.settled {rest : List String}
    (terminates : debugger.Terminates fuel (lines ++ line :: rest))
    (asked : Command.read line = .ok .resume) :
    ((debugger.afterAll fuel lines).after fuel line).Settled := by
  induction lines generalizing debugger with
  | nil => exact terminates.1 asked
  | cons first lines induction => exact induction terminates.2

/-- A command that stops by itself does not depend on the fuel. -/
theorem execute_of_more
    (stops : Command.read line = .ok .resume → (debugger.after fuel line).Settled)
    (enough : fuel ≤ more) : debugger.execute more line = debugger.execute fuel line := by
  cases asked : Command.read line with
  | error error => rw [execute_of_unread asked, execute_of_unread asked]
  | ok command =>
      cases command with
      | resume =>
          have settled := stops asked
          rw [after_resume asked] at settled
          have same : debugger.resume more = debugger.resume fuel := by
            rw [resume, resume, Machine.run_until_of_stopped settled enough]
          rw [execute_of_read asked, execute_of_read asked, perform, perform, same]
      -- No other command uses fuel.
      | _ => rw [execute_of_read asked, execute_of_read asked]; rfl

theorem lines_for_append_read (debugger : Debugger) (fuel : Nat) (reads : List Read) (read : Read) :
    debugger.linesFor fuel (reads ++ [read]) = debugger.linesFor fuel reads ++
      (debugger.lineFor fuel (debugger.linesFor fuel reads) read).toList := by
  rw [linesFor, List.foldl_append]
  rfl

theorem lines_for_of_unused {reads : List Read} {read : Read}
    (unused : debugger.lineFor fuel (debugger.linesFor fuel reads) read = none) :
    debugger.linesFor fuel (reads ++ [read]) = debugger.linesFor fuel reads := by
  rw [lines_for_append_read, unused]
  exact List.append_nil _

theorem lines_for_of_used {reads : List Read} {read : Read}
    (used : debugger.lineFor fuel (debugger.linesFor fuel reads) read = some line) :
    debugger.linesFor fuel (reads ++ [read]) = debugger.linesFor fuel reads ++ [line] := by
  rw [lines_for_append_read, used]
  rfl

theorem lines_for_append (debugger : Debugger) (fuel : Nat) (before rest : List Read) :
    ∃ later, debugger.linesFor fuel (before ++ rest) = debugger.linesFor fuel before ++ later := by
  induction rest generalizing before with
  | nil => exact ⟨[], by rw [List.append_nil, List.append_nil]⟩
  | cons read rest induction =>
      obtain ⟨later, whole⟩ := induction (before ++ [read])
      rw [← List.append_cons, lines_for_append_read, List.append_assoc] at whole
      exact ⟨_, whole⟩

end Debugger

namespace Dialogue

def shown : Except CommandError Reply → List Printed
  | .ok (.text words) => [.reply words]
  | .ok .quit => []
  | .error error => [complain (.ofCommandError error)]

def recallable? : Read → Option String
  | .line text => if isBlankLine text then none else some text
  | .interrupt | .failure _ => none

/-- How many reads are made: up to and including the first whose line quits, or all of them and one
more, which finds the end of input. -/
inductive Consumes (debugger : Debugger) (fuel : Nat) : List Read → Nat → Prop where
  | all {reads : List Read}
      (going : .ok .quit ∉ debugger.outcomes fuel (debugger.linesFor fuel reads)) :
      Consumes debugger fuel reads (reads.length + 1)
  | quit {before after : List Read} {read : Read}
      (going : .ok .quit ∉ debugger.outcomes fuel (debugger.linesFor fuel before))
      (quits : .ok .quit ∈ debugger.outcomes fuel (debugger.linesFor fuel (before ++ [read]))) :
      Consumes debugger fuel (before ++ read :: after) (before.length + 1)

structure Folds (debugger : Debugger) (fuel : Nat) (reads : List Read) (lines : List String)
    (transcript : Transcript) : Prop where
  state : transcript.dialogue.debugger = debugger.afterAll fuel lines
  output : transcript.printed.filter (· != .prompt) =
    banner debugger ++ (debugger.outcomes fuel lines).flatMap shown
  ended : transcript.failure = none
  consumed : Consumes debugger fuel reads transcript.reads
  recalled : transcript.dialogue.recalled = (reads.take transcript.reads).filterMap recallable?

/-- The dialogue stands where executing the lines for the reads so far leads to. -/
structure Tracks (debugger : Debugger) (fuel : Nat) (before : List Read) (dialogue : Dialogue)
    (printed : List Printed) : Prop where
  state : dialogue.debugger = debugger.afterAll fuel (debugger.linesFor fuel before)
  register : dialogue.lastLine = debugger.lastAnswered fuel (debugger.linesFor fuel before)
  recalled : dialogue.recalled = before.filterMap recallable?
  output : printed.filter (· != .prompt) = banner debugger ++
    (debugger.outcomes fuel (debugger.linesFor fuel before)).flatMap shown
  prompts : printed.count .prompt = before.length

variable {debugger : Debugger} {fuel more : Nat} {before rest : List Read} {read : Read}
  {dialogue : Dialogue} {printed : List Printed} {line text : String}

theorem answer_eq (dialogue : Dialogue) (fuel : Nat) (line : String) :
    dialogue.answer fuel line =
      (⟨dialogue.debugger.after fuel line,
          if Debugger.isText (dialogue.debugger.outcome fuel line) then some line
          else dialogue.lastLine,
          dialogue.recalled⟩,
        shown (dialogue.debugger.outcome fuel line),
        decide (dialogue.debugger.outcome fuel line = .ok .quit)) := by
  rw [answer, Debugger.after, Debugger.outcome]
  obtain ⟨outcome, next⟩ := dialogue.debugger.execute fuel line
  cases outcome with
  | error error => rfl
  | ok reply => cases reply <;> rfl

theorem precede_precede (first second : List Printed) (transcript : Transcript) :
    (transcript.precede second).precede first = transcript.precede (first ++ second) := by
  rw [Transcript.precede, Transcript.precede, Transcript.precede, List.append_assoc]

theorem shown_without_prompt (outcome : Except CommandError Reply) :
    (shown outcome).filter (· != .prompt) = shown outcome ∧
      (shown outcome).count .prompt = 0 := by
  cases outcome with
  | error error => exact ⟨rfl, rfl⟩
  | ok reply => cases reply <;> exact ⟨rfl, rfl⟩

theorem recallable_of_line_for_eq_none {lines : List String}
    (unused : debugger.lineFor fuel lines read = none) : recallable? read = none := by
  cases read with
  | line text =>
      rw [Debugger.lineFor] at unused
      split at unused
      · rename_i blank
        exact if_pos blank
      · cases unused
  | interrupt | failure => rfl

namespace Tracks

theorem start (debugger : Debugger) (fuel : Nat) :
    Tracks debugger fuel [] (ofDebugger debugger) (banner debugger) :=
  ⟨rfl, rfl, rfl, rfl, rfl⟩

theorem skip (tracks : Tracks debugger fuel before dialogue printed)
    (unused : debugger.lineFor fuel (debugger.linesFor fuel before) read = none) :
    Tracks debugger fuel (before ++ [read]) dialogue (printed ++ [.prompt]) := by
  have lines := Debugger.lines_for_of_unused unused
  refine ⟨?_, ?_, ?_, ?_, ?_⟩
  · rw [lines, tracks.state]
  · rw [lines, tracks.register]
  · rw [List.filterMap_append, List.filterMap_cons_none (recallable_of_line_for_eq_none unused),
      tracks.recalled]
    exact (List.append_nil _).symm
  · rw [lines, List.filter_append, tracks.output]
    exact List.append_nil _
  · rw [List.count_append, tracks.prompts, List.length_append]
    rfl

/-- What a read with a line to execute does. More fuel than that line needs makes no difference. -/
theorem feed (tracks : Tracks debugger fuel before dialogue printed)
    (used : debugger.lineFor fuel (debugger.linesFor fuel before) (.line text) = some line)
    (same : dialogue.debugger.execute more line = dialogue.debugger.execute fuel line) :
    dialogue.feed more text =
      { dialogue with
        recalled := (before ++ [Read.line text]).filterMap recallable? }.answer fuel line := by
  have listed : (before ++ [Read.line text]).filterMap recallable? =
      dialogue.recalled ++ [Read.line text].filterMap recallable? := by
    rw [List.filterMap_append, tracks.recalled]
  rw [Debugger.lineFor] at used
  split at used
  · rename_i blank
    have unlisted : recallable? (.line text) = none := if_pos blank
    have held : dialogue.lastLine = some line := tracks.register.trans used
    rw [List.filterMap_cons_none unlisted, List.filterMap_nil, List.append_nil] at listed
    calc dialogue.feed more text
        = dialogue.answer more line := by rw [Dialogue.feed, if_pos blank, held]
      _ = dialogue.answer fuel line := by rw [answer, answer, same]
      _ = _ := by rw [listed]
  · rename_i filled
    cases used
    have adds : recallable? (.line line) = some line := if_neg filled
    rw [List.filterMap_cons_some adds, List.filterMap_nil] at listed
    rw [Dialogue.feed, if_neg filled, listed, answer, answer, same]

theorem answered (tracks : Tracks debugger fuel before dialogue printed)
    (used : debugger.lineFor fuel (debugger.linesFor fuel before) read = some line) :
    let result := { dialogue with
      recalled := (before ++ [read]).filterMap recallable? }.answer fuel line
    Tracks debugger fuel (before ++ [read]) result.1 (printed ++ .prompt :: result.2.1) := by
  have lines := Debugger.lines_for_of_used used
  obtain ⟨unprompted, uncounted⟩ := shown_without_prompt (dialogue.debugger.outcome fuel line)
  dsimp only
  rw [answer_eq]
  refine ⟨?_, ?_, rfl, ?_, ?_⟩
  · rw [lines, Debugger.after_all_append, ← tracks.state]
    rfl
  · rw [lines, Debugger.last_answered_append, ← tracks.state, ← tracks.register]
  · rw [lines, Debugger.outcomes_append, ← tracks.state, List.filter_append, tracks.output,
      List.flatMap_append, List.append_assoc]
    congr 2
    exact unprompted.trans (List.append_nil _).symm
  · rw [List.count_append, List.count_cons, uncounted, tracks.prompts, List.length_append]
    rfl

theorem folds_at_end (tracks : Tracks debugger fuel before dialogue printed)
    (going : .ok .quit ∉ debugger.outcomes fuel (debugger.linesFor fuel before)) :
    Folds debugger fuel before (debugger.upToQuit fuel (debugger.linesFor fuel before))
      ⟨dialogue, printed ++ [.prompt], none⟩ := by
  have reads : Transcript.reads ⟨dialogue, printed ++ [.prompt], none⟩ = before.length + 1 := by
    rw [Transcript.reads, List.count_append, tracks.prompts]
    rfl
  rw [Debugger.up_to_quit_of_going going]
  refine ⟨tracks.state, ?_, rfl, ?_, ?_⟩
  · rw [List.filter_append, tracks.output]
    exact List.append_nil _
  · rw [reads]
    exact .all going
  · rw [reads, List.take_of_length_le (Nat.le_succ _), tracks.recalled]

theorem folds_at_quit (tracks : Tracks debugger fuel (before ++ [read]) dialogue printed)
    (used : debugger.lineFor fuel (debugger.linesFor fuel before) read = some line)
    (going : .ok .quit ∉ debugger.outcomes fuel (debugger.linesFor fuel before))
    (quits : (debugger.afterAll fuel (debugger.linesFor fuel before)).outcome fuel line =
      .ok .quit) (after : List Read) :
    Folds debugger fuel (before ++ read :: after)
      (debugger.upToQuit fuel (debugger.linesFor fuel (before ++ read :: after)))
      ⟨dialogue, printed, none⟩ := by
  have lines := Debugger.lines_for_of_used used
  have reads : Transcript.reads ⟨dialogue, printed, none⟩ = before.length + 1 := by
    rw [Transcript.reads, tracks.prompts, List.length_append]
    rfl
  have cut : debugger.upToQuit fuel (debugger.linesFor fuel (before ++ read :: after)) =
      debugger.linesFor fuel (before ++ [read]) := by
    obtain ⟨later, whole⟩ := debugger.lines_for_append fuel (before ++ [read]) after
    rw [List.append_assoc, List.singleton_append] at whole
    rw [whole, lines, List.append_assoc]
    exact Debugger.up_to_quit_of_quit going quits later
  rw [cut]
  refine ⟨tracks.state, tracks.output, rfl, ?_, ?_⟩
  · rw [reads]
    refine .quit going ?_
    rw [lines, Debugger.outcomes_append, List.mem_append]
    exact .inr (quits ▸ List.mem_cons_self)
  · have taken : (before ++ read :: after).take (before.length + 1) = before ++ [read] := by
      rw [List.take_length_add_append, List.take_succ_cons, List.take_zero]
    rw [reads, taken, tracks.recalled]

theorem follow_of_unused (tracks : Tracks debugger fuel before dialogue printed)
    (unused : debugger.lineFor fuel (debugger.linesFor fuel before) read = none)
    (readable : ∀ error, read ≠ .failure error) (more : Nat) (rest : List Read) :
    dialogue.follow more (read :: rest) = (dialogue.follow more rest).precede [.prompt] := by
  cases read with
  | interrupt => rfl
  | failure error => exact absurd rfl (readable error)
  | line text =>
      have blank : isBlankLine text = true := by
        by_contra filled
        rw [Debugger.lineFor, if_neg filled] at unused
        cases unused
      rw [Debugger.lineFor, if_pos blank, ← tracks.register] at unused
      rw [follow, Dialogue.feed, if_pos blank, unused]

theorem follow_of_used (tracks : Tracks debugger fuel before dialogue printed)
    (used : debugger.lineFor fuel (debugger.linesFor fuel before) read = some line)
    (same : dialogue.debugger.execute more line = dialogue.debugger.execute fuel line)
    (rest : List Read) :
    let result := { dialogue with
      recalled := (before ++ [read]).filterMap recallable? }.answer fuel line
    dialogue.follow more (read :: rest) =
      if dialogue.debugger.outcome fuel line = .ok .quit then
        ⟨result.1, .prompt :: result.2.1, none⟩
      else (result.1.follow more rest).precede (.prompt :: result.2.1) := by
  cases read with
  | interrupt | failure => cases used
  | line text =>
      rw [follow, tracks.feed used same, answer_eq]
      dsimp only
      by_cases quits : dialogue.debugger.outcome fuel line = .ok .quit
      · rw [if_pos quits, decide_eq_true quits]
      · rw [if_neg quits, decide_eq_false quits]

theorem going_of_used (tracks : Tracks debugger fuel before dialogue printed)
    (used : debugger.lineFor fuel (debugger.linesFor fuel before) read = some line)
    (going : .ok .quit ∉ debugger.outcomes fuel (debugger.linesFor fuel before))
    (goes : dialogue.debugger.outcome fuel line ≠ .ok .quit) :
    .ok .quit ∉ debugger.outcomes fuel (debugger.linesFor fuel (before ++ [read])) := by
  rw [Debugger.lines_for_of_used used, Debugger.outcomes_append, ← tracks.state, List.mem_append]
  intro quits
  rcases quits with earlier | now
  · exact going earlier
  · exact goes (List.mem_singleton.1 now).symm

theorem folds_follow (tracks : Tracks debugger fuel before dialogue printed)
    (going : .ok .quit ∉ debugger.outcomes fuel (debugger.linesFor fuel before))
    (readable : ∀ read ∈ rest, ∀ error, read ≠ .failure error) :
    Folds debugger fuel (before ++ rest)
      (debugger.upToQuit fuel (debugger.linesFor fuel (before ++ rest)))
      ((dialogue.follow fuel rest).precede printed) := by
  -- What is repeated depends on all reads so far, so these and the output grow with the induction.
  induction rest generalizing before dialogue printed with
  | nil =>
      rw [List.append_nil]
      exact tracks.folds_at_end going
  | cons read rest induction =>
      obtain ⟨here, there⟩ := List.forall_mem_cons.1 readable
      have whole : before ++ read :: rest = before ++ [read] ++ rest := List.append_cons ..
      cases used : debugger.lineFor fuel (debugger.linesFor fuel before) read with
      | none =>
          rw [tracks.follow_of_unused used here, precede_precede, whole]
          refine induction (tracks.skip used) ?_ there
          rw [Debugger.lines_for_of_unused used]
          exact going
      | some line =>
          rw [tracks.follow_of_used used rfl]
          have next := tracks.answered used
          by_cases quits : dialogue.debugger.outcome fuel line = .ok .quit
          · rw [if_pos quits]
            exact next.folds_at_quit used going (tracks.state ▸ quits) rest
          · rw [if_neg quits, precede_precede, whole]
            exact induction next (tracks.going_of_used used going quits) there

/-- If every command of the dialogue stops by itself, more fuel changes nothing. -/
theorem follow_of_more (tracks : Tracks debugger fuel before dialogue printed)
    (going : .ok .quit ∉ debugger.outcomes fuel (debugger.linesFor fuel before))
    (readable : ∀ read ∈ rest, ∀ error, read ≠ .failure error)
    (terminates : debugger.Terminates fuel
      (debugger.upToQuit fuel (debugger.linesFor fuel (before ++ rest))))
    (enough : fuel ≤ more) : dialogue.follow more rest = dialogue.follow fuel rest := by
  induction rest generalizing before dialogue printed with
  | nil => rfl
  | cons read rest induction =>
      obtain ⟨here, there⟩ := List.forall_mem_cons.1 readable
      rw [List.append_cons] at terminates
      cases used : debugger.lineFor fuel (debugger.linesFor fuel before) read with
      | none =>
          rw [tracks.follow_of_unused used here, tracks.follow_of_unused used here,
            induction (tracks.skip used) ?_ there terminates]
          rw [Debugger.lines_for_of_unused used]
          exact going
      | some line =>
          have stops : Command.read line = .ok .resume →
              (dialogue.debugger.after fuel line).Settled := by
            obtain ⟨later, lines⟩ := debugger.lines_for_append fuel (before ++ [read]) rest
            rw [lines, Debugger.lines_for_of_used used, List.append_assoc, List.singleton_append,
              Debugger.up_to_quit_append going, Debugger.upToQuit] at terminates
            rw [tracks.state]
            exact terminates.settled
          have same := Debugger.execute_of_more stops enough
          rw [tracks.follow_of_used used same, tracks.follow_of_used used rfl]
          by_cases quits : dialogue.debugger.outcome fuel line = .ok .quit
          · rw [if_pos quits, if_pos quits]
          · rw [if_neg quits, if_neg quits, induction (tracks.answered used)
              (tracks.going_of_used used going quits) there terminates]

end Tracks

/-- The dialogue is a fold of execution. Let no read fail. Then the debugger ends where it is taken
by executing, one after another, the lines for the reads up to the first that quits; after the
banner, their answers are printed; nothing is read behind the line that quits; and the lines to
recall are those that were read and are not blank. If all commands stop by themselves, more fuel
changes nothing. -/
theorem dialogue_folds_execution (debugger : Debugger) (fuel : Nat) (reads : List Read)
    (readable : ∀ read ∈ reads, ∀ error, read ≠ .failure error) :
    let lines := debugger.upToQuit fuel (debugger.linesFor fuel reads)
    Folds debugger fuel reads lines (run debugger fuel reads) ∧
    (debugger.Terminates fuel lines → ∀ more, fuel ≤ more →
      run debugger more reads = run debugger fuel reads) := by
  have tracks := Tracks.start debugger fuel
  have going : .ok .quit ∉ debugger.outcomes fuel (debugger.linesFor fuel []) := nofun
  refine ⟨tracks.folds_follow going readable, ?_⟩
  intro terminates more enough
  rw [run, run, tracks.follow_of_more going readable terminates enough]

/-- A script in which a repeated line first succeeds and then fails, and blank lines stand before
anything that they could repeat, after a line that failed and after one that was itself repeated. -/
def stutteringScript : List Read :=
  [.interrupt, .line " ", .line "step", .line "stpe", .line "", .line "back", .line "", .line "\t",
    .line "continue", .interrupt, .line "", .line "quit", .line "step"]

theorem stuttering_script_folds :
    let debugger := Debugger.ofSession Session.shadowingSession {}
    let lines := ["step", "stpe", "step", "back", "back", "back", "continue", "continue", "quit"]
    debugger.upToQuit 20 (debugger.linesFor 20 stutteringScript) = lines ∧
      Folds debugger 20 stutteringScript lines (run debugger 20 stutteringScript) ∧
      (∀ more, 20 ≤ more →
        run debugger more stutteringScript = run debugger 20 stutteringScript) ∧
      (run debugger 20 stutteringScript).reads = 12 ∧
      (run debugger 20 stutteringScript).dialogue.recalled =
        ["step", "stpe", "back", "continue", "quit"] := by
  intro debugger lines
  have told : debugger.upToQuit 20 (debugger.linesFor 20 stutteringScript) = lines := by
    decide +kernel
  have readable : ∀ read ∈ stutteringScript, ∀ error, read ≠ .failure error := by
    intro read member error failed
    subst failed
    simp [stutteringScript] at member
  obtain ⟨folds, steady⟩ := dialogue_folds_execution debugger 20 stutteringScript readable
  rw [told] at folds steady
  exact ⟨told, folds, steady (by decide +kernel), by decide +kernel, by decide +kernel⟩

end Dialogue

end ThreeAddress
