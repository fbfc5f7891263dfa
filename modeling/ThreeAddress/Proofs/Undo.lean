import ThreeAddress.Proofs.Transparency

/-!
Going back in the debugger. Every command that moves the machine forward keeps a snapshot, also when
the machine does not move, and no other command but `back` and `reset` touches the snapshots. So the
latest moves can be undone one by one, as many as snapshots are kept, whatever other commands and
refused lines came in between.
-/

namespace ThreeAddress

namespace Command

def movesForward : Command → Bool
  | .step _ | .resume => true
  | _ => false

def inspects : Command → Bool
  | .print _ | .locals | .frames | .arguments | .list | .help => true
  | _ => false

end Command

namespace Debugger

variable {debugger first next last : Debugger} {fuel : Nat} {line : String} {lines : List String}

def moves (line : String) : Bool := (Command.read line).toOption.any Command.movesForward

/-- The line takes the debugger back. Without a snapshot a `back` is refused. -/
def goesBack (debugger : Debugger) (line : String) : Bool :=
  (Command.read line).toOption.any fun
    | .reset => true
    | .back => !debugger.history.isEmpty
    | _ => false

/-- Executes lines one after another. The first that is refused ends it. -/
def executeAll (debugger : Debugger) (fuel : Nat) : List String → Except CommandError Debugger
  | [] => .ok debugger
  | line :: lines =>
      match debugger.execute fuel line with
      | (.ok _, next) => next.executeAll fuel lines
      | (.error error, _) => .error error

/-- The command lines bring the first debugger to the last, and none of them takes it back. The
machines that the moves among them left are `left`, the latest first. -/
inductive Proceeds : Debugger → List String → List Machine → Debugger → Prop where
  | nil (debugger : Debugger) : Proceeds debugger [] [] debugger
  | move {first next last : Debugger} {line : String} {lines : List String} {left : List Machine}
      (moving : moves line = true) (executed : Executes first line next)
      (rest : Proceeds next lines left last) :
      Proceeds first (line :: lines) (left ++ [first.machine]) last
  | stay {first next last : Debugger} {line : String} {lines : List String} {left : List Machine}
      (still : moves line = false) (onward : first.goesBack line = false)
      (executed : Executes first line next) (rest : Proceeds next lines left last) :
      Proceeds first (line :: lines) left last

inductive Tracked (line : String) (debugger next : Debugger) : Prop where
  | moved (moving : moves line = true)
      (kept : next.history = (debugger.machine :: debugger.history).take maxHistory)
  | wentBack (still : moves line = false) (back : debugger.goesBack line = true)
      (fewer : next.history.length ≤ debugger.history.length)
  | stayed (still : moves line = false) (same : next.history = debugger.history)

/-- A command that is refused changes nothing. -/
theorem perform_of_refused {command : Command} {error : CommandError}
    (refused : (debugger.perform fuel command).1 = .error error) :
    (debugger.perform fuel command).2 = debugger := by
  cases command with
  | setBreak target =>
      rw [perform] at refused ⊢
      split
      · rfl
      · rename_i pc resolved
        rw [resolved] at refused
        cases refused
  | clearBreak target =>
      rw [perform] at refused ⊢
      split
      · rfl
      · rename_i pc resolved
        rw [resolved] at refused
        by_cases marked : debugger.breakpoints.contains pc = true
        · simp only [marked, if_true] at refused
          cases refused
        · -- The command has removed what there was to remove, which is nothing.
          have all : debugger.breakpoints.filter (· != pc) = debugger.breakpoints := by
            rw [List.filter_eq_self]
            intro other member
            rw [bne_iff_ne]
            rintro rfl
            exact marked (List.contains_iff_mem.2 member)
          simp only [marked, all]
          rfl
  | back =>
      rw [perform] at refused ⊢
      split
      · rfl
      · rename_i previous earlier kept
        rw [kept] at refused
        cases refused
  | step | resume | reset => cases refused
  | print | locals | frames | arguments | list | help | quit => rfl

theorem after_of_refused {error : CommandError}
    (refused : (debugger.execute fuel line).1 = .error error) :
    debugger.after fuel line = debugger := by
  rw [after]
  cases read : Command.read line with
  | error error => rw [execute_of_unread read]
  | ok command =>
      rw [execute_of_read read] at refused ⊢
      exact perform_of_refused refused

theorem tracked_perform {command : Command} (read : Command.read line = .ok command)
    (debugger : Debugger) (fuel : Nat) :
    Tracked line debugger (debugger.perform fuel command).2 := by
  have moving : moves line = command.movesForward := by
    rw [moves, read]
    rfl
  cases command with
  | step count => exact .moved moving rfl
  | resume => exact .moved moving rfl
  | back =>
      cases kept : debugger.history with
      | nil =>
          rw [perform, kept]
          exact .stayed moving rfl
      | cons previous earlier =>
          have back : debugger.goesBack line = true := by
            rw [goesBack, read, kept]
            rfl
          rw [perform, kept]
          refine .wentBack moving back ?_
          rw [kept]
          exact Nat.le_succ _
  | reset =>
      have back : debugger.goesBack line = true := by
        rw [goesBack, read]
        rfl
      exact .wentBack moving back (Nat.zero_le _)
  | setBreak target =>
      rw [perform]
      split <;> exact .stayed moving rfl
  | clearBreak target =>
      rw [perform]
      split
      · exact .stayed moving rfl
      · dsimp only
        split <;> exact .stayed moving rfl
  | print | locals | frames | arguments | list | help | quit => exact .stayed moving rfl

theorem tracked_after (debugger : Debugger) (fuel : Nat) (line : String) :
    Tracked line debugger (debugger.after fuel line) := by
  rw [after]
  cases read : Command.read line with
  | error error =>
      rw [execute_of_unread read]
      refine .stayed ?_ rfl
      rw [moves, read]
      rfl
  | ok command =>
      rw [execute_of_read read]
      exact tracked_perform read debugger fuel

theorem bounded_after (bounded : debugger.history.length ≤ maxHistory) (fuel : Nat) (line : String) :
    (debugger.after fuel line).history.length ≤ maxHistory := by
  cases tracked_after debugger fuel line with
  | moved moving kept =>
      rw [kept, List.length_take]
      exact Nat.min_le_left _ _
  | wentBack still back fewer => exact Nat.le_trans fewer bounded
  | stayed still same =>
      rw [same]
      exact bounded

theorem Follows.bounded (followed : Follows first lines last)
    (bounded : first.history.length ≤ maxHistory) : last.history.length ≤ maxHistory := by
  induction followed with
  | nil debugger => exact bounded
  | @cons debugger next last line lines executed rest induction =>
      obtain ⟨fuel, reached, -⟩ := executed
      apply induction
      rw [← reached]
      exact bounded_after bounded fuel line

theorem take_append_take {α : Type} (count : Nat) (front back : List α) :
    (front ++ back.take count).take count = (front ++ back).take count := by
  rw [List.take_append, List.take_append, List.take_take, Nat.min_eq_left (Nat.sub_le _ _)]

/-- After commands that only proceed, the snapshots are the machines left, and then the snapshots
from before, as far as they are kept. -/
theorem Proceeds.history {left : List Machine} (proceeded : Proceeds first lines left last)
    (bounded : first.history.length ≤ maxHistory) :
    last.history = (left ++ first.history).take maxHistory := by
  induction proceeded with
  | nil debugger => exact (List.take_of_length_le bounded).symm
  | @move first next last line lines left moving executed rest induction =>
      obtain ⟨fuel, reached, -⟩ := executed
      subst reached
      cases tracked_after first fuel line with
      | moved moving kept =>
          rw [induction (bounded_after bounded fuel line), kept, take_append_take,
            List.append_assoc]
          rfl
      | wentBack still | stayed still =>
          rw [moving] at still
          cases still
  | @stay first next last line lines left still onward executed rest induction =>
      obtain ⟨fuel, reached, -⟩ := executed
      subst reached
      cases tracked_after first fuel line with
      | moved moving kept =>
          rw [moving] at still
          cases still
      | wentBack still back fewer =>
          rw [back] at onward
          cases onward
      | stayed still same => rw [induction (bounded_after bounded fuel line), same]

theorem execute_back {previous : Machine} {earlier : List Machine}
    (asked : Command.read line = .ok .back) (kept : debugger.history = previous :: earlier)
    (fuel : Nat) :
    ∃ reply, debugger.execute fuel line =
      (.ok reply, { debugger with machine := previous, history := earlier }) := by
  rw [execute_of_read asked, perform, kept]
  exact ⟨_, rfl⟩

theorem refuse_back (asked : Command.read line = .ok .back) (empty : debugger.history = [])
    (fuel : Nat) : debugger.execute fuel line = (.error .noEarlierState, debugger) := by
  rw [execute_of_read asked, perform, empty]

/-- As many `back` commands as there are snapshots succeed and lead to the snapshots one by one. -/
theorem execute_all_backs {backs : List String}
    (asked : ∀ line ∈ backs, Command.read line = .ok .back) (fuel : Nat)
    (enough : backs.length ≤ debugger.history.length) :
    ∃ restored, debugger.executeAll fuel backs = .ok restored ∧
      (debugger.machine :: debugger.history)[backs.length]? = some restored.machine ∧
      restored.breakpoints = debugger.breakpoints := by
  induction backs generalizing debugger with
  | nil => exact ⟨debugger, rfl, rfl, rfl⟩
  | cons line backs induction =>
      cases kept : debugger.history with
      | nil =>
          rw [kept] at enough
          exact absurd enough (Nat.not_succ_le_zero _)
      | cons previous earlier =>
          rw [kept] at enough
          obtain ⟨reply, executed⟩ := execute_back (asked line (List.mem_cons_self ..)) kept fuel
          obtain ⟨restored, done, machine, breakpoints⟩ :=
            @induction { debugger with machine := previous, history := earlier }
              (fun other member => asked other (List.mem_cons_of_mem line member))
              (Nat.le_of_succ_le_succ enough)
          refine ⟨restored, ?_, machine, breakpoints⟩
          rw [executeAll, executed]
          exact done

theorem refuse_all_backs {backs : List String}
    (asked : ∀ line ∈ backs, Command.read line = .ok .back) (fuel : Nat)
    (beyond : debugger.history.length < backs.length) :
    debugger.executeAll fuel backs = .error .noEarlierState := by
  induction backs generalizing debugger with
  | nil => exact absurd beyond (Nat.not_lt_zero _)
  | cons line backs induction =>
      cases kept : debugger.history with
      | nil => rw [executeAll, refuse_back (asked line (List.mem_cons_self ..)) kept]
      | cons previous earlier =>
          rw [kept] at beyond
          obtain ⟨reply, executed⟩ := execute_back (asked line (List.mem_cons_self ..)) kept fuel
          rw [executeAll, executed]
          exact induction (fun other member => asked other (List.mem_cons_of_mem line member))
            (Nat.lt_of_succ_lt_succ beyond)

theorem after_of_inspection {command : Command} (read : Command.read line = .ok command)
    (inspection : command.inspects = true) (debugger : Debugger) (fuel : Nat) :
    debugger.after fuel line = debugger := by
  rw [after, execute_of_read read]
  cases command with
  | print | locals | frames | arguments | list | help => rfl
  | _ => cases inspection

theorem get_snapshot {machine : Machine} {left older : List Machine} {count : Nat}
    (kept : count ≤ maxHistory) (recent : count ≤ left.length) :
    (machine :: (left ++ older).take maxHistory)[count]? = (machine :: left)[count]? := by
  cases count with
  | zero => rfl
  | succ index =>
      rw [List.getElem?_cons_succ, List.getElem?_cons_succ, List.getElem?_take_of_lt kept,
        List.getElem?_append_left recent]

/-- From any state of a debugger on, let command lines proceed, with the moves among them leaving the
machines `left`, the latest first. Then as many snapshots are available as the bound allows of those
from before and of the moves: so many `back` commands succeed and no more. They leave the breakpoints
alone, and each of the latest ones undoes one move. A `back` without a snapshot changes nothing, and
neither does a line that is refused or a command that only shows something. -/
theorem back_undoes_latest_moves {session : Session} {config : Config} {earlier : List String}
    {left : List Machine} (arisen : Follows (ofSession session config) earlier first)
    (proceeded : Proceeds first lines left last) :
    let available := min maxHistory (first.history.length + left.length)
    last.history.length = available ∧
    (∀ (fuel : Nat) (backs : List String), (∀ line ∈ backs, Command.read line = .ok .back) →
      (backs.length ≤ available → ∃ restored, last.executeAll fuel backs = .ok restored ∧
        (backs.length ≤ left.length →
          (last.machine :: left)[backs.length]? = some restored.machine) ∧
        restored.breakpoints = last.breakpoints) ∧
      (available < backs.length → last.executeAll fuel backs = .error .noEarlierState)) ∧
    ∀ (fuel : Nat) (line : String),
      (Command.read line = .ok .back ∧ first.history = [] ∨
        (∃ error, (first.execute fuel line).1 = .error error) ∨
        ∃ command, Command.read line = .ok command ∧ command.inspects = true) →
      first.after fuel line = first := by
  intro available
  have bounded := arisen.bounded (Nat.zero_le _)
  have kept := proceeded.history bounded
  have count : last.history.length = available := by
    rw [kept, List.length_take, List.length_append, Nat.add_comm left.length]
  refine ⟨count, ?_, ?_⟩
  · intro fuel backs asked
    refine ⟨?_, fun beyond => refuse_all_backs asked fuel (count ▸ beyond)⟩
    intro enough
    obtain ⟨restored, done, machine, breakpoints⟩ := execute_all_backs asked fuel (count ▸ enough)
    refine ⟨restored, done, ?_, breakpoints⟩
    intro recent
    rw [← machine, kept]
    exact (get_snapshot (Nat.le_trans enough (Nat.min_le_left _ _)) recent).symm
  · rintro fuel line (⟨asked, empty⟩ | ⟨error, refused⟩ | ⟨command, read, inspection⟩)
    · exact after_of_refused (congrArg Prod.fst (refuse_back asked empty fuel))
    · exact after_of_refused refused
    · exact after_of_inspection read inspection first fuel

/-- Taking no step is a move all the same, and leaves the machine where it is. -/
theorem proceeds_resting (debugger : Debugger) (count : Nat) :
    ∃ last, Proceeds debugger (List.replicate count "step 0")
      (List.replicate count debugger.machine) last := by
  have read : Command.read "step 0" = .ok (.step 0) := by decide +kernel
  induction count generalizing debugger with
  | zero => exact ⟨debugger, .nil debugger⟩
  | succ count induction =>
      obtain ⟨last, rest⟩ := induction (debugger.step 0)
      refine ⟨last, ?_⟩
      rw [List.replicate_succ, List.replicate_succ']
      refine .move (by rw [moves, read]; rfl) ⟨0, ?_, ?_⟩ rest
      · rw [after, execute_of_read read]
        rfl
      · intro resumed
        cases read.symm.trans resumed

def preparation : List String := ["step 2", "break max"]

def prepared : Debugger :=
  preparation.foldl (fun debugger line => debugger.after 0 line)
    (ofSession Session.shadowingSession {})

/-- A move and a refused line, and then so many moves without a step that the snapshot from before
is forgotten: the oldest one left is from before the first move. -/
theorem back_undoes_as_many_moves_as_kept :
    ∃ last, Proceeds prepared ("step" :: "undo" :: List.replicate 1023 "step 0")
        (List.replicate 1023 (prepared.after 0 "step").machine ++ [prepared.machine]) last ∧
      prepared.history.length = 1 ∧ last.history.length = 1024 ∧
      (∃ restored, last.executeAll 0 (List.replicate 1024 "back") = .ok restored ∧
        restored.machine = prepared.machine ∧ restored.breakpoints = last.breakpoints) ∧
      last.executeAll 0 (List.replicate 1025 "back") = .error .noEarlierState ∧
      prepared.after 0 "undo" = prepared := by
  have arisen : Follows (ofSession Session.shadowingSession {}) preparation prepared := by
    refine .cons ⟨0, rfl, ?_⟩ (.cons ⟨0, rfl, ?_⟩ (.nil _))
    all_goals decide +kernel
  obtain ⟨last, rested⟩ := proceeds_resting (prepared.after 0 "step") 1023
  have unread : Command.read "undo" = .error (.unknownCommand "undo") := by decide +kernel
  have refused : (prepared.after 0 "step").after 0 "undo" = prepared.after 0 "step" :=
    after_of_refused (congrArg Prod.fst (execute_of_unread unread _ 0))
  have proceeded : Proceeds prepared ("step" :: "undo" :: List.replicate 1023 "step 0")
      (List.replicate 1023 (prepared.after 0 "step").machine ++ [prepared.machine]) last := by
    refine .move (by decide +kernel) ⟨0, rfl, by decide +kernel⟩ ?_
    exact .stay (by decide +kernel) (by decide +kernel) ⟨0, refused, by decide +kernel⟩ rested
  have single : prepared.history.length = 1 := by decide +kernel
  have read : Command.read "back" = .ok .back := by decide +kernel
  have asked : ∀ count, ∀ line ∈ List.replicate count "back", Command.read line = .ok .back := by
    intro count line member
    rw [List.eq_of_mem_replicate member]
    exact read
  obtain ⟨available, backs, unchanged⟩ := back_undoes_latest_moves arisen proceeded
  rw [single, List.length_append, List.length_replicate] at available backs
  obtain ⟨restored, done, machine, breakpoints⟩ :=
    (backs 0 (List.replicate 1024 "back") (asked 1024)).1 (by rw [List.length_replicate]; decide)
  refine ⟨last, proceeded, single, available, ⟨restored, done, ?_, breakpoints⟩, ?_, ?_⟩
  · have oldest := machine (by rw [List.length_replicate]; decide)
    have held := List.getElem?_concat_length
      (l := List.replicate 1023 (prepared.after 0 "step").machine) (a := prepared.machine)
    rw [List.length_replicate] at oldest held
    rw [List.getElem?_cons_succ, held] at oldest
    exact (Option.some.inj oldest).symm
  · exact (backs 0 _ (asked 1025)).2 (by rw [List.length_replicate]; decide)
  · exact unchanged 0 "undo" (.inr (.inl ⟨.unknownCommand "undo", by decide +kernel⟩))

end Debugger

end ThreeAddress
