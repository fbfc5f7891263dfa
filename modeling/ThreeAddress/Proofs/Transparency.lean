import ThreeAddress.Debugger
import ThreeAddress.Proofs.Linking

/-!
The debugger is transparent. Whatever command lines it has been given, its machine and all its
snapshots are states of the one run that the session has without it, the snapshots stand in the
order of that run, and once the machine has ended it is where the run ends.
-/

namespace ThreeAddress

/-- Running up to a stop is taking some number of steps, and there was none to stop at on the way. -/
theorem Machine.exists_run_eq_run_until (setting : Setting) (stop : Machine → Bool) (fuel : Nat)
    (machine : Machine) :
    ∃ count, machine.runUntil setting stop fuel = machine.run setting count ∧
      ∀ earlier, earlier < count → (machine.run setting earlier).isRunning = true ∧
        stop (machine.run setting earlier) = false := by
  induction fuel generalizing machine with
  | zero => exact ⟨0, rfl, nofun⟩
  | succ fuel induction =>
      rw [runUntil]
      split
      · rename_i going
        obtain ⟨running, onward⟩ := Bool.and_eq_true_iff.1 going
        have unmet : stop machine = false := by simpa using onward
        obtain ⟨count, same, passed⟩ := induction (machine.step setting)
        refine ⟨count + 1, by rw [same, run_succ], ?_⟩
        intro earlier before
        cases earlier with
        | zero => exact ⟨running, unmet⟩
        | succ earlier =>
            rw [run_succ]
            exact passed earlier (Nat.lt_of_succ_lt_succ before)
      · exact ⟨0, rfl, nofun⟩

def Session.state (session : Session) (config : Config) (count : Nat) : Machine :=
  (session.machine config).run (session.setting config) count

theorem Session.state_add (session : Session) (config : Config) (first second : Nat) :
    session.state config (first + second) =
      (session.state config first).run (session.setting config) second :=
  Machine.run_add (session.setting config) first second (session.machine config)

namespace Debugger

def after (debugger : Debugger) (fuel : Nat) (line : String) : Debugger :=
  (debugger.execute fuel line).2

theorem execute_of_read {line : String} {command : Command} (read : Command.read line = .ok command)
    (debugger : Debugger) (fuel : Nat) :
    debugger.execute fuel line = debugger.perform fuel command := by
  rw [execute, read]

theorem execute_of_unread {line : String} {error : CommandError}
    (unread : Command.read line = .error error) (debugger : Debugger) (fuel : Nat) :
    debugger.execute fuel line = (.error error, debugger) := by
  rw [execute, unread]

/-- The machine stands where a `continue` stops: at a breakpoint, or at the end of the run. -/
def Settled (debugger : Debugger) : Prop :=
  debugger.machine.isRunning = true → debugger.atBreakpoint debugger.machine = true

instance (debugger : Debugger) : Decidable debugger.Settled :=
  inferInstanceAs (Decidable (debugger.machine.isRunning = true →
    debugger.atBreakpoint debugger.machine = true))

/-- The command line brings the debugger to `next`. If it is a `continue`, there was fuel enough for
it to stop by itself. -/
def Executes (debugger : Debugger) (line : String) (next : Debugger) : Prop :=
  ∃ fuel, debugger.after fuel line = next ∧ (Command.read line = .ok .resume → next.Settled)

inductive Follows : Debugger → List String → Debugger → Prop where
  | nil (debugger : Debugger) : Follows debugger [] debugger
  | cons {debugger next last : Debugger} {line : String} {lines : List String}
      (first : Executes debugger line next) (rest : Follows next lines last) :
      Follows debugger (line :: lines) last

/-- The debugger shows the run of a session: its machine is the state after `count` steps, and its
snapshots, latest first, are the states after `earlier` steps, which never grow on the way back. -/
structure Shows (session : Session) (config : Config) (count : Nat) (earlier : List Nat)
    (debugger : Debugger) : Prop where
  sameSession : debugger.session = session
  sameConfig : debugger.config = config
  machine : debugger.machine = session.state config count
  history : debugger.history = earlier.map (session.state config)
  ordered : (count :: earlier).Pairwise (· ≥ ·)
  breakpoints : ∀ pc ∈ debugger.breakpoints, pc ≤ session.program.size

theorem resolve_le_size {program : Program} {target : String} {pc : Nat}
    (resolved : resolve program target = .ok pc) : pc ≤ program.size := by
  have checked : ∀ found : Nat, (if program.size < found then
      Except.error (CommandError.pastEnd found program.size) else .ok found) = .ok pc →
      pc ≤ program.size := by
    intro found finished
    split at finished
    · cases finished
    · rename_i inside
      cases finished
      exact Nat.not_lt.1 inside
  unfold resolve at resolved
  split at resolved
  · exact checked _ resolved
  · split at resolved
    · exact checked _ resolved
    · cases resolved

theorem mem_insert_ascending {number pc : Nat} {numbers : List Nat}
    (member : pc ∈ insertAscending number numbers) : pc = number ∨ pc ∈ numbers := by
  induction numbers with
  | nil => exact .inl (List.mem_singleton.1 member)
  | cons first rest induction =>
      rw [insertAscending] at member
      split at member
      · exact List.mem_cons.1 member
      · split at member
        · exact .inr member
        · rcases List.mem_cons.1 member with here | later
          · exact .inr (List.mem_cons.2 (.inl here))
          · exact (induction later).imp_right (List.mem_cons_of_mem first)

namespace Shows

variable {session : Session} {config : Config} {count : Nat} {earlier : List Nat}
  {debugger next : Debugger}

theorem of_session (session : Session) (config : Config) :
    (ofSession session config).Shows session config 0 [] where
  sameSession := rfl
  sameConfig := rfl
  machine := rfl
  history := rfl
  ordered := List.pairwise_singleton _ _
  breakpoints := nofun

/-- A move forward keeps a snapshot, unless that is an old one too many, and takes some number of
steps. -/
theorem forward (shows : debugger.Shows session config count earlier) (more : Nat) :
    { debugger.snapshot with machine := debugger.machine.run debugger.setting more }.Shows
      session config (count + more) ((count :: earlier).take maxHistory) where
  sameSession := shows.sameSession
  sameConfig := shows.sameConfig
  machine := by
    have setting : debugger.setting = session.setting config := by
      rw [Debugger.setting, shows.sameSession, shows.sameConfig]
    rw [setting, shows.machine, Session.state_add]
  history := by
    have kept : debugger.snapshot.history =
        (debugger.machine :: debugger.history).take maxHistory := rfl
    rw [kept, shows.machine, shows.history, ← List.map_cons, List.map_take]
  ordered := by
    refine List.pairwise_cons.2 ⟨?_, shows.ordered.sublist (List.take_sublist _ _)⟩
    intro index member
    have before := List.mem_of_mem_take member
    have latest : index ≤ count := by
      rcases List.mem_cons.1 before with same | older
      · exact Nat.le_of_eq same
      · exact (List.pairwise_cons.1 shows.ordered).1 index older
    exact Nat.le_trans latest (Nat.le_add_right count more)
  breakpoints := shows.breakpoints

theorem back {latest : Nat} (shows : debugger.Shows session config count (latest :: earlier)) :
    { debugger with machine := session.state config latest
                    history := earlier.map (session.state config) }.Shows
      session config latest earlier :=
  ⟨shows.sameSession, shows.sameConfig, rfl, rfl, (List.pairwise_cons.1 shows.ordered).2,
    shows.breakpoints⟩

theorem with_breakpoints (shows : debugger.Shows session config count earlier) {pcs : List Nat}
    (inside : ∀ pc ∈ pcs, pc ≤ session.program.size) :
    { debugger with breakpoints := pcs }.Shows session config count earlier :=
  ⟨shows.sameSession, shows.sameConfig, shows.machine, shows.history, shows.ordered, inside⟩

/-- One command keeps the debugger on the run, also where it is refused. -/
theorem perform (shows : debugger.Shows session config count earlier) (fuel : Nat)
    (command : Command) :
    ∃ count earlier, (debugger.perform fuel command).2.Shows session config count earlier := by
  cases command with
  | step steps => exact ⟨_, _, shows.forward steps⟩
  | resume =>
      obtain ⟨more, stopped, -⟩ := Machine.exists_run_eq_run_until debugger.setting
        debugger.atBreakpoint fuel (debugger.machine.step debugger.setting)
      rw [← Machine.run_succ] at stopped
      have moved := shows.forward (more + 1)
      rw [← stopped] at moved
      exact ⟨_, _, moved⟩
  | setBreak target =>
      rw [Debugger.perform]
      split
      · exact ⟨count, earlier, shows⟩
      · rename_i pc resolved
        refine ⟨count, earlier, shows.with_breakpoints ?_⟩
        intro other member
        rcases mem_insert_ascending member with same | held
        · rw [same, ← shows.sameSession]
          exact resolve_le_size resolved
        · exact shows.breakpoints other held
  | clearBreak target =>
      rw [Debugger.perform]
      split
      · exact ⟨count, earlier, shows⟩
      · rename_i pc resolved
        have cleared := @with_breakpoints _ _ _ _ _ shows
          (debugger.breakpoints.filter (· != pc))
          fun other member => shows.breakpoints other (List.mem_filter.1 member).1
        dsimp only
        split <;> exact ⟨count, earlier, cleared⟩
  | back =>
      have kept := shows.history
      cases earlier with
      | nil =>
          rw [Debugger.perform, kept]
          exact ⟨count, [], shows⟩
      | cons latest earlier =>
          rw [Debugger.perform, kept]
          exact ⟨latest, earlier, shows.back⟩
  | reset =>
      refine ⟨0, [], shows.sameSession, shows.sameConfig, ?_, rfl, List.pairwise_singleton _ _,
        shows.breakpoints⟩
      rw [Debugger.perform, shows.sameSession, shows.sameConfig]
      rfl
  | print | locals | frames | arguments | list | help | quit => exact ⟨count, earlier, shows⟩

theorem after (shows : debugger.Shows session config count earlier) (fuel : Nat) (line : String) :
    ∃ count earlier, (debugger.after fuel line).Shows session config count earlier := by
  rw [Debugger.after]
  cases read : Command.read line with
  | error error =>
      rw [execute_of_unread read]
      exact ⟨count, earlier, shows⟩
  | ok command =>
      rw [execute_of_read read]
      exact shows.perform fuel command

theorem follows {lines : List String} (shows : debugger.Shows session config count earlier)
    (followed : Follows debugger lines next) :
    ∃ count earlier, next.Shows session config count earlier := by
  induction followed generalizing count earlier with
  | nil debugger => exact ⟨count, earlier, shows⟩
  | @cons debugger next last line lines first rest induction =>
      obtain ⟨fuel, reached, -⟩ := first
      obtain ⟨now, before, continued⟩ := shows.after fuel line
      rw [reached] at continued
      exact induction continued

end Shows

/-- After any sequence of command lines, the debugger's machine and its snapshots are states of the
session's own run, and the steps they stand at never decrease from the oldest snapshot to the
machine. Once the machine has ended, it is the machine that the run ends with. And every breakpoint
stands in the program or at its end. -/
theorem shows_states_of_one_run {session : Session} {config : Config} {lines : List String}
    {debugger : Debugger} (followed : Follows (ofSession session config) lines debugger) :
    (∃ count earlier, debugger.machine = session.state config count ∧
      debugger.history.reverse = earlier.map (session.state config) ∧
      (earlier ++ [count]).Pairwise (· ≤ ·)) ∧
    (debugger.machine.isRunning = false →
      ∃ enough, ∀ fuel, enough ≤ fuel → session.state config fuel = debugger.machine) ∧
    ∀ pc ∈ debugger.breakpoints, pc ≤ session.program.size := by
  obtain ⟨count, earlier, shows⟩ := (Shows.of_session session config).follows followed
  refine ⟨⟨count, earlier.reverse, shows.machine, ?_, ?_⟩, ?_, shows.breakpoints⟩
  · rw [shows.history, List.map_reverse]
  · rw [← List.reverse_cons, List.pairwise_reverse]
    exact shows.ordered
  · intro ended
    rw [shows.machine] at ended ⊢
    exact ⟨count, fun fuel enough => Machine.run_of_ended _ ended enough⟩

def wanderingLines : List String :=
  ["break max", "step", "continue", "back", "undo", "continue", "continue", "step 3"]

def wandered : Debugger :=
  wanderingLines.foldl (fun debugger line => debugger.after 20 line)
    (ofSession Session.shadowingSession {})

theorem wandering_lines_followed :
    Follows (ofSession Session.shadowingSession {}) wanderingLines wandered := by
  refine .cons ⟨20, rfl, ?_⟩ (.cons ⟨20, rfl, ?_⟩ (.cons ⟨20, rfl, ?_⟩ (.cons ⟨20, rfl, ?_⟩
    (.cons ⟨20, rfl, ?_⟩ (.cons ⟨20, rfl, ?_⟩ (.cons ⟨20, rfl, ?_⟩ (.cons ⟨20, rfl, ?_⟩
      (.nil _))))))))
  all_goals decide +kernel

theorem wandered_shows_states_of_one_run :
    wandered.machine.status = .halted (some (.integer 1)) ∧ wandered.history.length = 4 ∧
      (∃ count earlier, wandered.machine = Session.shadowingSession.state {} count ∧
        wandered.history.reverse = earlier.map (Session.shadowingSession.state {}) ∧
        (earlier ++ [count]).Pairwise (· ≤ ·)) ∧
      (∃ enough, ∀ fuel, enough ≤ fuel →
        Session.shadowingSession.state {} fuel = wandered.machine) ∧
      wandered.breakpoints = [6] ∧ 6 ≤ Session.shadowingProgram.size := by
  obtain ⟨states, ending, inside⟩ := shows_states_of_one_run wandering_lines_followed
  have stopped : wandered.breakpoints = [6] := by decide +kernel
  refine ⟨by decide +kernel, by decide +kernel, states, ending (by decide +kernel), stopped, ?_⟩
  exact inside 6 (by rw [stopped]; exact List.mem_singleton_self 6)

end Debugger

end ThreeAddress
