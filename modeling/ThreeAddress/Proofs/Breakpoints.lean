import Mathlib.Data.Nat.Find
import ThreeAddress.Proofs.Transparency

/-!
Where `continue` stops. It takes one step whatever stands at the program counter, and then runs on to
the first state in which the machine has ended or stands at a breakpoint. It stops in no other state:
if there is no such state, it does not come to an end.
-/

namespace ThreeAddress

/-- Running up to a stop ends at the first state to stop at, if there is fuel enough to reach it. -/
theorem Machine.run_until_of_first {setting : Setting} {stop : Machine → Bool} {machine : Machine}
    {count fuel : Nat}
    (going : ∀ earlier, earlier < count → (machine.run setting earlier).isRunning = true ∧
      stop (machine.run setting earlier) = false)
    (stops : (machine.run setting count).isRunning = true →
      stop (machine.run setting count) = true)
    (enough : count ≤ fuel) :
    machine.runUntil setting stop fuel = machine.run setting count := by
  induction count generalizing machine fuel with
  | zero =>
      cases fuel with
      | zero => rfl
      | succ fuel =>
          have here : (machine.isRunning && !stop machine) = false := by
            cases running : machine.isRunning with
            | false => rfl
            | true =>
                have met : stop machine = true := stops running
                rw [met]
                rfl
          rw [runUntil, here]
          rfl
  | succ count induction =>
      obtain ⟨fuel, rfl⟩ := Nat.exists_eq_add_of_le' (Nat.le_trans (Nat.le_add_left 1 count) enough)
      obtain ⟨running, unmet⟩ : machine.isRunning = true ∧ stop machine = false :=
        going 0 (Nat.succ_pos count)
      rw [runUntil, running, unmet, run_succ]
      apply induction
      · intro earlier before
        rw [← run_succ]
        exact going (earlier + 1) (Nat.succ_lt_succ before)
      · rw [← run_succ]
        exact stops
      · exact Nat.le_of_succ_le_succ enough

namespace Debugger

variable {debugger next : Debugger} {line : String} {count fuel : Nat}

def successor (debugger : Debugger) (count : Nat) : Machine :=
  debugger.machine.run debugger.setting count

/-- After `count` steps the machine has ended or stands at a breakpoint. -/
def StopsAt (debugger : Debugger) (count : Nat) : Prop :=
  (debugger.successor count).isRunning = true →
    debugger.atBreakpoint (debugger.successor count) = true

instance (debugger : Debugger) (count : Nat) : Decidable (debugger.StopsAt count) :=
  inferInstanceAs (Decidable ((debugger.successor count).isRunning = true →
    debugger.atBreakpoint (debugger.successor count) = true))

/-- The least number of steps, at least one, after which there is something to stop at. -/
structure FirstStop (debugger : Debugger) (count : Nat) : Prop where
  positive : 1 ≤ count
  stops : debugger.StopsAt count
  first : ∀ earlier, 1 ≤ earlier → earlier < count → ¬ debugger.StopsAt earlier

def movedBy (debugger : Debugger) (count : Nat) : Debugger :=
  { debugger.snapshot with machine := debugger.successor count }

def unmarked (debugger : Debugger) : Debugger :=
  { debugger with breakpoints := debugger.breakpoints.filter (· != debugger.machine.pc) }

theorem exists_first_stop (exists_stop : ∃ count, 1 ≤ count ∧ debugger.StopsAt count) :
    ∃ count, debugger.FirstStop count := by
  obtain ⟨positive, stops⟩ := Nat.find_spec exists_stop
  refine ⟨Nat.find exists_stop, positive, stops, ?_⟩
  intro earlier one before stopped
  exact Nat.find_min exists_stop before ⟨one, stopped⟩

theorem not_stops_at_iff : ¬ debugger.StopsAt count ↔
    (debugger.successor count).isRunning = true ∧
      debugger.atBreakpoint (debugger.successor count) = false := by
  rw [StopsAt, Classical.not_imp, Bool.not_eq_true]

theorem successor_succ (debugger : Debugger) (count : Nat) :
    (debugger.machine.step debugger.setting).run debugger.setting count =
      debugger.successor (count + 1) :=
  (Machine.run_succ debugger.setting count debugger.machine).symm

theorem resume_of_first_stop (first : debugger.FirstStop count) (enough : count ≤ fuel) :
    debugger.resume fuel = debugger.movedBy count := by
  obtain ⟨more, rfl⟩ := Nat.exists_eq_add_of_le' first.positive
  have reached : (debugger.machine.step debugger.setting).runUntil debugger.setting
      debugger.atBreakpoint fuel = debugger.successor (more + 1) := by
    rw [← successor_succ]
    apply Machine.run_until_of_first
    · intro earlier before
      rw [successor_succ]
      exact not_stops_at_iff.1 (first.first (earlier + 1) (Nat.le_add_left 1 earlier)
        (Nat.succ_lt_succ before))
    · rw [successor_succ]
      exact first.stops
    · exact Nat.le_of_succ_le enough
  rw [resume, reached]
  rfl

theorem first_stop_of_settled (settled : (debugger.resume fuel).Settled) :
    ∃ count, debugger.FirstStop count ∧ debugger.resume fuel = debugger.movedBy count := by
  obtain ⟨more, same, passed⟩ := Machine.exists_run_eq_run_until debugger.setting
    debugger.atBreakpoint fuel (debugger.machine.step debugger.setting)
  rw [successor_succ] at same
  have moved : debugger.resume fuel = debugger.movedBy (more + 1) := by
    rw [resume, same]
    rfl
  refine ⟨more + 1, ⟨Nat.le_add_left 1 more, ?_, ?_⟩, moved⟩
  · rw [moved] at settled
    exact settled
  · intro earlier positive before
    obtain ⟨index, rfl⟩ := Nat.exists_eq_add_of_le' positive
    rw [not_stops_at_iff, ← successor_succ]
    exact passed index (Nat.lt_of_succ_lt_succ before)

/-- A breakpoint where the machine starts plays no part unless the machine comes back to it. -/
theorem first_stop_unmarked (first : debugger.FirstStop count)
    (elsewhere : (debugger.successor count).isRunning = true →
      (debugger.successor count).pc ≠ debugger.machine.pc) :
    debugger.unmarked.FirstStop count := by
  refine ⟨first.positive, ?_, ?_⟩
  · intro running
    have marked := List.contains_iff_mem.1 (first.stops running)
    apply List.contains_iff_mem.2
    exact List.mem_filter.2 ⟨marked, bne_iff_ne.2 (elsewhere running)⟩
  · intro earlier positive before stopped
    apply first.first earlier positive before
    intro running
    have marked := List.contains_iff_mem.1 (stopped running)
    exact List.contains_iff_mem.2 (List.mem_filter.1 marked).1

/-- The words for a machine that has ended are not those for a breakpoint. -/
theorem position_of_terminal (program : Program) {machine : Machine}
    (terminal : machine.isRunning = false) :
    ¬ "breakpoint: ".toList <+: (Listing.position program machine).toList := by
  rintro ⟨rest, same⟩
  have heads := congrArg List.head? same
  rw [Machine.isRunning] at terminal
  cases status : machine.status with
  | running =>
      rw [status] at terminal
      cases terminal
  | halted value =>
      cases value <;>
        simp only [Listing.position, status, Status.render, String.toList_append] at heads <;>
        cases heads
  | faulted fault =>
      simp only [Listing.position, status, Status.render, String.toList_append] at heads
      cases heads

theorem execute_resume (asked : Command.read line = .ok .resume) (debugger : Debugger) (fuel : Nat) :
    ∃ words, debugger.execute fuel line = (.ok (.text words), debugger.resume fuel) ∧
      ("breakpoint: ".toList <+: words.toList ↔
        (debugger.resume fuel).machine.isRunning = true) := by
  refine ⟨_, (execute_of_read asked debugger fuel).trans rfl, ?_⟩
  cases running : (debugger.resume fuel).machine.isRunning with
  | true =>
      rw [if_pos rfl, String.toList_append]
      exact iff_of_true (List.prefix_append _ _) rfl
  | false =>
      rw [if_neg Bool.false_ne_true, String.empty_append]
      exact iff_of_false (position_of_terminal _ running) Bool.false_ne_true

theorem after_resume (asked : Command.read line = .ok .resume) (debugger : Debugger) (fuel : Nat) :
    debugger.after fuel line = debugger.resume fuel := by
  obtain ⟨words, executed, -⟩ := execute_resume asked debugger fuel
  rw [after, executed]

theorem resume_of_terminal (terminal : debugger.machine.isRunning = false) (fuel : Nat) :
    debugger.resume fuel = debugger.snapshot := by
  rw [resume, Machine.step_of_terminal debugger.setting terminal,
    Machine.run_until_of_terminal debugger.setting _ fuel terminal]
  rfl

/-- If after some number of steps, at least one, the machine has ended or stands at a breakpoint, then
`continue` leaves it at the least such number, and the reply announces a breakpoint exactly if the
machine is still running there. A breakpoint where `continue` starts makes no difference, unless the
machine has come back to it. Whenever `continue` comes to an end, it is in this way; and with a machine
that has ended it does nothing but keep a snapshot. -/
theorem continue_stops_at_first_breakpoint (debugger : Debugger)
    (asked : Command.read line = .ok .resume) :
    ((∃ count, 1 ≤ count ∧ debugger.StopsAt count) →
      ∃ count, debugger.FirstStop count ∧
        (∀ fuel, count ≤ fuel → ∃ words,
          debugger.execute fuel line = (.ok (.text words), debugger.movedBy count) ∧
          ("breakpoint: ".toList <+: words.toList ↔
            (debugger.successor count).isRunning = true)) ∧
        (debugger.unmarked.FirstStop count ∨ (debugger.successor count).isRunning = true ∧
          (debugger.successor count).pc = debugger.machine.pc)) ∧
    (∀ next, debugger.Executes line next →
      ∃ count, debugger.FirstStop count ∧ next = debugger.movedBy count) ∧
    (debugger.machine.isRunning = false →
      ∀ fuel, debugger.after fuel line = debugger.snapshot) := by
  refine ⟨?_, ?_, ?_⟩
  · intro somewhere
    obtain ⟨count, first⟩ := exists_first_stop somewhere
    refine ⟨count, first, ?_, ?_⟩
    · intro fuel enough
      have executed := execute_resume asked debugger fuel
      rw [resume_of_first_stop first enough] at executed
      exact executed
    · by_cases returned : (debugger.successor count).isRunning = true ∧
          (debugger.successor count).pc = debugger.machine.pc
      · exact .inr returned
      · left
        apply first_stop_unmarked first
        intro running same
        exact returned ⟨running, same⟩
  · intro next executed
    obtain ⟨fuel, reached, settled⟩ := executed
    have stopped := settled asked
    rw [after_resume asked] at reached
    subst reached
    exact first_stop_of_settled stopped
  · intro terminal fuel
    rw [after_resume asked, resume_of_terminal terminal]

def countdown : Program :=
  .ofParts
    [.assign "i" (.literal (.integer 3)),
      .binary "i" (.variable "i") .sub (.literal (.integer 1)),
      .branch .ifNonZero (.variable "i") ⟨"loop", false, 1⟩, .ret (some (.variable "i"))]
    [("main", 0), ("loop", 1)]

def atLoop : Debugger :=
  ((ofSession ⟨"countdown", countdown, .ofProgram countdown, []⟩ {}).after 0 "step").after 0
    "break loop"

/-- The breakpoint does not stop `continue` at once, but when it has gone once around the loop. -/
theorem continue_goes_once_around :
    atLoop.atBreakpoint atLoop.machine = true ∧ atLoop.FirstStop 2 ∧
      (∃ words, atLoop.execute 2 "continue" = (.ok (.text words), atLoop.movedBy 2) ∧
        "breakpoint: ".toList <+: words.toList) ∧
      (atLoop.successor 2).pc = atLoop.machine.pc ∧ ¬ atLoop.unmarked.FirstStop 2 := by
  have asked : Command.read "continue" = .ok .resume := by decide +kernel
  have stops : atLoop.StopsAt 2 := by decide +kernel
  obtain ⟨count, first, executed, -⟩ :=
    (continue_stops_at_first_breakpoint atLoop asked).1 ⟨2, by decide, stops⟩
  have around : count = 2 := by
    have upper : count ≤ 2 := Nat.not_lt.1 fun beyond => first.first 2 (by decide) beyond stops
    have later : count ≠ 1 := by
      rintro rfl
      exact absurd first.stops (by decide +kernel)
    have positive := first.positive
    omega
  subst around
  obtain ⟨words, replied, announced⟩ := executed 2 (Nat.le_refl 2)
  refine ⟨by decide +kernel, first, ⟨words, replied, announced.2 (by decide +kernel)⟩,
    by decide +kernel, ?_⟩
  intro other
  exact absurd other.stops (by decide +kernel)

end Debugger

end ThreeAddress
