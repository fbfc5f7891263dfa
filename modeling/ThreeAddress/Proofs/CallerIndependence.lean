import ThreeAddress.Proofs.CallStack

/-!
A callee cannot see its callers. Two machines that execute the same activation on top of different
callers, as many on the one side as on the other, go through the same steps until that activation
returns: every instruction reads the executing frame, the pending arguments and the number of live
frames, and never what the suspended frames hold. When the activation returns it does so on both sides
in the same step and with the same value.
-/

namespace ThreeAddress.Machine

variable {setting : Setting} {machine other : Machine} {below otherBelow : List Frame}

/-- The machines differ in the callers at the bottom of their stacks only, which are `below` in the one
and `otherBelow` in the other. Above them they have the same frames. -/
structure Beside (below otherBelow : List Frame) (machine other : Machine) : Prop where
  callers : ∃ inner, machine.callers = inner ++ below ∧ other.callers = inner ++ otherBelow
  frame : other.frame = machine.frame
  pending : other.pending = machine.pending
  pc : other.pc = machine.pc
  steps : other.steps = machine.steps
  status : other.status = machine.status

/-- An activation with the destination `dest` has handed `value` back to the first of its callers. -/
def HandedBack (callers : List Frame) (dest : Option String) (value : Option Value)
    (machine : Machine) : Prop :=
  ∃ caller outer, callers = caller :: outer ∧ machine.callers = outer ∧
    machine.frame = caller.receive dest value

/-- The activation that the machines shared has handed the same value back in both, each time to the
machine's own caller. -/
structure ReturnedBoth (below otherBelow : List Frame) (dest : Option String) (value : Option Value)
    (machine other : Machine) : Prop where
  here : HandedBack below dest value machine
  there : HandedBack otherBelow dest value other
  pending : other.pending = machine.pending
  pc : other.pc = machine.pc
  steps : other.steps = machine.steps
  status : other.status = machine.status

theorem HandedBack.depth_eq {dest : Option String} {value : Option Value}
    (handed : HandedBack below dest value machine) : machine.depth = below.length := by
  obtain ⟨caller, outer, callers, rest, -⟩ := handed
  rw [depth, rest, callers, List.length_cons]

namespace Beside

theorem depth_lt (beside : Beside below otherBelow machine other) :
    below.length < machine.depth := by
  obtain ⟨inner, callers, -⟩ := beside.callers
  rw [depth, callers, List.length_append]
  omega

theorem depth_eq (beside : Beside below otherBelow machine other)
    (length : otherBelow.length = below.length) : other.depth = machine.depth := by
  obtain ⟨inner, callers, otherCallers⟩ := beside.callers
  rw [depth, depth, callers, otherCallers, List.length_append, List.length_append, length]

theorem fail (beside : Beside below otherBelow machine other) (kind : FaultKind) :
    Beside below otherBelow (machine.fail kind) (other.fail kind) := by
  refine { beside with status := ?_ }
  rw [Machine.fail, Machine.fail, beside.pc]

theorem moveTo (beside : Beside below otherBelow machine other) (pc : Nat) :
    Beside below otherBelow (machine.moveTo pc) (other.moveTo pc) :=
  { beside with pc := rfl }

theorem advance (beside : Beside below otherBelow machine other) :
    Beside below otherBelow machine.advance other.advance := by
  rw [Machine.advance, Machine.advance, beside.pc]
  exact beside.moveTo _

theorem assign (beside : Beside below otherBelow machine other) (name : String) (value : Value) :
    Beside below otherBelow (machine.assign name value) (other.assign name value) := by
  refine { beside with frame := ?_ }
  rw [Machine.assign, Machine.assign, beside.frame]

theorem assignTo (beside : Beside below otherBelow machine other) (dest : Option String)
    (value : Value) :
    Beside below otherBelow (machine.assignTo dest value) (other.assignTo dest value) := by
  cases dest with
  | none => exact beside
  | some name => exact beside.assign name value

theorem withPending (beside : Beside below otherBelow machine other) (pending : List Value) :
    Beside below otherBelow { machine with pending := pending } { other with pending := pending } :=
  { beside with pending := rfl }

theorem counted (beside : Beside below otherBelow machine other) :
    Beside below otherBelow machine.counted other.counted := by
  refine { beside with steps := ?_ }
  rw [Machine.counted, Machine.counted, beside.steps]

theorem withValue (beside : Beside below otherBelow machine other) (operand : Operand)
    {continuation onward : Value → Machine}
    (continued : ∀ value, Beside below otherBelow (continuation value) (onward value)) :
    Beside below otherBelow (machine.withValue setting operand continuation)
      (other.withValue setting operand onward) := by
  rw [Machine.withValue, Machine.withValue, evaluate_of_frame beside.frame]
  cases machine.evaluate setting operand with
  | ok value => exact continued value
  | error kind => exact beside.fail kind

/-- A call looks at the number of the callers, which is the same, and at nothing else of them. -/
theorem call (beside : Beside below otherBelow machine other)
    (length : otherBelow.length = below.length) (dest : Option String) (callee : Callee) :
    Beside below otherBelow (machine.call setting dest callee)
      (other.call setting dest callee) := by
  have spent := beside.withPending []
  rw [Machine.call, Machine.call, beside.pending]
  cases setting.globals.get? callee.name with
  | none => exact spent.fail _
  | some global =>
      cases global with
      | value value => exact spent.fail _
      | native native =>
          dsimp only
          cases native.call machine.pending with
          | ok value => exact (spent.assignTo dest value).advance
          | error kind => exact spent.fail kind
      | function entry =>
          dsimp only
          rw [spent.depth_eq length]
          split
          · exact spent.fail _
          · split
            · exact spent.fail _
            · obtain ⟨inner, callers, otherCallers⟩ := beside.callers
              rw [enter, enter]
              dsimp only
              rw [callers, otherCallers, beside.frame, beside.pc]
              exact { spent with
                callers := ⟨machine.frame :: inner, rfl, rfl⟩
                frame := rfl
                pc := rfl }

/-- A return ends a call nested in the activation, or it ends the activation itself. -/
theorem returnWith (beside : Beside below otherBelow machine other)
    (length : otherBelow.length = below.length) (value : Option Value) :
    Beside below otherBelow (machine.returnWith value) (other.returnWith value) ∨
      ReturnedBoth below otherBelow machine.frame.dest value (machine.returnWith value)
        (other.returnWith value) := by
  obtain ⟨inner, callers, otherCallers⟩ := beside.callers
  cases inner with
  | cons top inner =>
      left
      rw [return_with_of_callers callers, return_with_of_callers otherCallers, beside.frame,
        beside.pc]
      exact { beside with callers := ⟨inner, rfl, rfl⟩, frame := rfl, pc := rfl }
  | nil =>
      cases below with
      | nil =>
          left
          have none : other.callers = [] := otherCallers.trans (List.length_eq_zero_iff.1 length)
          rw [return_with_of_outermost callers, return_with_of_outermost none]
          exact { beside with status := rfl }
      | cons caller outer =>
          right
          obtain ⟨otherCaller, otherOuter, rfl⟩ := List.exists_cons_of_length_eq_add_one length
          rw [return_with_of_callers callers, return_with_of_callers otherCallers, beside.frame,
            beside.pc]
          exact { beside with
            here := ⟨caller, outer, rfl, rfl, rfl⟩
            there := ⟨otherCaller, otherOuter, rfl, rfl, rfl⟩
            pc := rfl }

theorem execute {instruction : Instruction} (beside : Beside below otherBelow machine other)
    (length : otherBelow.length = below.length)
    (fetched : setting.program.get? machine.pc = some instruction) :
    Beside below otherBelow (machine.execute setting instruction)
        (other.execute setting instruction) ∨
      ∃ value, Returns setting machine value ∧
        ReturnedBoth below otherBelow machine.frame.dest value
          (machine.execute setting instruction) (other.execute setting instruction) := by
  cases instruction with
  | assign dest value =>
      left
      apply beside.withValue
      intro value
      exact (beside.assign dest value).advance
  | binary dest left operator right =>
      left
      apply beside.withValue
      intro first
      apply beside.withValue
      intro second
      cases operator.apply first second with
      | ok value => exact (beside.assign dest value).advance
      | error kind => exact beside.fail kind
  | goto target => exact .inl (beside.moveTo target.pc)
  | branch polarity condition target =>
      left
      apply beside.withValue
      intro value
      cases value with
      | integer number =>
          dsimp only
          split
          · exact beside.moveTo target.pc
          · exact beside.advance
      | text contents => exact beside.fail _
      | globalRef name => exact beside.fail _
  | argument value =>
      left
      apply beside.withValue
      intro value
      rw [beside.pending]
      exact (beside.withPending _).advance
  | call dest callee => exact .inl (beside.call length dest callee)
  | ret value =>
      cases value with
      | none =>
          exact (beside.returnWith length none).imp_right fun both => ⟨none, .bare fetched, both⟩
      | some operand =>
          simp only [Machine.execute, Machine.withValue, evaluate_of_frame beside.frame]
          cases evaluated : machine.evaluate setting operand with
          | error kind => exact .inl (beside.fail kind)
          | ok value =>
              exact (beside.returnWith length (some value)).imp_right fun both =>
                ⟨some value, .carrying fetched evaluated, both⟩
  | labelMarker name => exact .inl beside.advance

/-- A step keeps the machines beside each other, unless it returns from their common activation in
both. -/
theorem step (setting : Setting) (beside : Beside below otherBelow machine other)
    (length : otherBelow.length = below.length) :
    Beside below otherBelow (machine.step setting) (other.step setting) ∨
      ∃ value, Returns setting machine value ∧
        ReturnedBoth below otherBelow machine.frame.dest value (machine.step setting)
          (other.step setting) := by
  have same : other.isRunning = machine.isRunning := by rw [isRunning, isRunning, beside.status]
  cases running : machine.isRunning with
  | false =>
      left
      rw [step_of_terminal setting running, step_of_terminal setting (same.trans running)]
      exact beside
  | true =>
      have otherRunning := same.trans running
      cases fetched : setting.program.get? machine.pc with
      | none =>
          rw [step_of_ended running fetched, step_of_ended otherRunning (beside.pc ▸ fetched)]
          exact (beside.returnWith length none).imp_right fun both => ⟨none, .offEnd fetched, both⟩
      | some instruction =>
          have otherFetched : setting.program.get? other.pc = some instruction :=
            beside.pc ▸ fetched
          rcases budget_or_spent setting machine with budget | ⟨limit, limited, spent⟩
          · rw [step_of_fetched running fetched budget,
              step_of_fetched otherRunning otherFetched (beside.steps ▸ budget)]
            rcases beside.counted.execute length fetched with still | ⟨value, returns, both⟩
            · exact .inl still
            · exact .inr ⟨value, returns.of_same rfl rfl, both⟩
          · left
            rw [step_of_spent running fetched limited spent,
              step_of_spent otherRunning otherFetched limited (beside.steps ▸ spent)]
            exact beside.fail _

theorem run (beside : Beside below otherBelow machine other)
    (length : otherBelow.length = below.length) (count : Nat)
    (inside : ∀ earlier, earlier ≤ count → below.length < (machine.run setting earlier).depth) :
    Beside below otherBelow (machine.run setting count) (other.run setting count) := by
  induction count with
  | zero => exact beside
  | succ count induction =>
      have before := induction fun earlier bound => inside earlier (Nat.le_succ_of_le bound)
      rw [run_succ_eq_step, run_succ_eq_step]
      rcases before.step setting length with still | ⟨value, -, both⟩
      · exact still
      · have left := inside (count + 1) (Nat.le_refl _)
        rw [run_succ_eq_step, both.here.depth_eq] at left
        exact absurd left (Nat.lt_irrefl _)

end Beside

/-- Take two running machines that agree on the program counter, the step count, the pending arguments
and the executing frame, on top of arbitrary callers, as many in the one as in the other. For as
long as the depth has stayed above these callers, the machines are in the same state but for them,
and each still has its own. In the next step they halt or fault together, and if the executing
frame returns to its caller in the one it does so in the other, with the same value. -/
theorem callee_cannot_see_callers (setting : Setting) (running : machine.isRunning = true)
    (otherRunning : other.isRunning = true) (pc : other.pc = machine.pc)
    (steps : other.steps = machine.steps) (pending : other.pending = machine.pending)
    (frame : other.frame = machine.frame)
    (length : other.callers.length = machine.callers.length) (count : Nat)
    (inside : ∀ earlier, earlier ≤ count →
      machine.callers.length < (machine.run setting earlier).depth) :
    Beside machine.callers other.callers (machine.run setting count) (other.run setting count) ∧
    (other.run setting (count + 1)).depth = (machine.run setting (count + 1)).depth ∧
    (other.run setting (count + 1)).status = (machine.run setting (count + 1)).status ∧
    ((machine.run setting (count + 1)).depth ≤ machine.callers.length →
      ∃ value, Returns setting (machine.run setting count) value ∧
        Returns setting (other.run setting count) value ∧
        ReturnedBoth machine.callers other.callers (machine.run setting count).frame.dest value
          (machine.run setting (count + 1)) (other.run setting (count + 1))) := by
  have status : other.status = machine.status :=
    (status_of_running otherRunning).trans (status_of_running running).symm
  have begun : Beside machine.callers other.callers machine other :=
    ⟨⟨[], rfl, rfl⟩, frame, pending, pc, steps, status⟩
  have beside := begun.run length count inside
  refine ⟨beside, ?_⟩
  rw [run_succ_eq_step, run_succ_eq_step]
  rcases beside.step setting length with still | ⟨value, returns, both⟩
  · refine ⟨still.depth_eq length, still.status, ?_⟩
    intro left
    exact absurd still.depth_lt (Nat.not_lt.2 left)
  · refine ⟨by rw [both.here.depth_eq, both.there.depth_eq, length], both.status, ?_⟩
    intro left
    exact ⟨value, returns, returns.of_same beside.pc beside.frame, both⟩

def nestedOuter : Machine := nestedStart.run nestedSetting 1

def nestedElsewhere : Machine :=
  { nestedOuter with
    callers := [⟨"elsewhere", some 9, .ofList [("x", .text "hidden")], some "y"⟩] }

theorem outer_cannot_see_caller :
    Beside nestedOuter.callers nestedElsewhere.callers (nestedOuter.run nestedSetting 2)
        (nestedElsewhere.run nestedSetting 2) ∧
      ∃ value, Returns nestedSetting (nestedOuter.run nestedSetting 2) value ∧
        Returns nestedSetting (nestedElsewhere.run nestedSetting 2) value ∧
        ReturnedBoth nestedOuter.callers nestedElsewhere.callers (some "r") value
          (nestedOuter.run nestedSetting 3) (nestedElsewhere.run nestedSetting 3) := by
  have running : nestedOuter.isRunning = true := by decide
  have otherRunning : nestedElsewhere.isRunning = true := by decide
  have depths : ∀ earlier, earlier ≤ 2 →
      nestedOuter.callers.length < (nestedOuter.run nestedSetting earlier).depth := by decide +kernel
  obtain ⟨beside, -, -, returned⟩ := callee_cannot_see_callers nestedSetting running
    otherRunning rfl rfl rfl rfl rfl 2 depths
  exact ⟨beside, returned (by decide +kernel)⟩

end ThreeAddress.Machine
