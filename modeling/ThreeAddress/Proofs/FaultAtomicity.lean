import ThreeAddress.Proofs.PendingArguments

/-!
A step that faults is atomic. Whichever check of the instruction fails, nothing has been written
before it: the machine stays at the instruction with all its frames as they were. The instruction
is counted, unless it was the step limit that refused it, and a call has taken its arguments even
so. After that the machine never changes again.
-/

namespace ThreeAddress

namespace Machine

variable {setting : Setting} {machine origin : Machine} {fault : Fault}

theorem evaluate_of_passes {instruction : Instruction} {value : Value}
    (passes : machine.passes? setting instruction = some value) :
    ∃ operand, instruction = .argument operand ∧ machine.evaluate setting operand = .ok value := by
  cases instruction with
  | argument operand =>
      rw [passes?] at passes
      cases evaluated : machine.evaluate setting operand with
      | ok other =>
          rw [evaluated] at passes
          cases passes
          exact ⟨operand, rfl, evaluated⟩
      | error kind =>
          rw [evaluated] at passes
          cases passes
  | _ => cases passes

/-- Once its value is passed, an argument does not stop the machine. -/
theorem passed_of_faulted (faulted : (machine.step setting).status = .faulted fault) :
    machine.passed? setting = none := by
  cases passed : machine.passed? setting with
  | none => rfl
  | some value =>
      obtain ⟨instruction, fetched, passes⟩ := Option.bind_eq_some_iff.1 passed
      obtain ⟨operand, rfl, evaluated⟩ := evaluate_of_passes passes
      have running := status_of_running (fetched_eq_some fetched).1
      have same : machine.counted.evaluate setting operand = .ok value :=
        (evaluate_of_frame rfl operand).trans evaluated
      rw [step_of_executed fetched, execute, withValue, same] at faulted
      cases running.symm.trans faulted

theorem step_of_fault (running : machine.isRunning = true)
    (faulted : (machine.step setting).status = .faulted fault) :
    (∃ limit ∈ setting.stepLimit, limit ≤ machine.steps ∧
        machine.step setting = machine.fail (.stepLimitExceeded limit)) ∨
      (∀ limit ∈ setting.stepLimit, machine.steps < limit) ∧
        ∃ instruction kind, setting.program.get? machine.pc = some instruction ∧
          machine.step setting =
            { machine.counted with
              pending := if instruction.isCall then [] else machine.pending }.fail kind := by
  obtain ⟨instruction, found, spent | ⟨budget, pending, kind, -, same⟩⟩ :=
    step_of_faulted running faulted
  · exact .inl spent
  · have fetched : machine.fetched? setting = some instruction :=
      (fetched_of_budget running budget).trans found
    have kept : pending = if instruction.isCall then [] else machine.pending := by
      have outcome := pending_step setting machine
      rw [passed_of_faulted faulted, calls, fetched, Option.toList_none, List.append_nil, same]
        at outcome
      exact outcome
    rw [kept] at same
    exact .inr ⟨budget, instruction, kind, found, same⟩

theorem Reaches.eq_of_terminal (terminal : origin.isRunning = false)
    (reached : Reaches setting origin machine) : machine = origin := by
  apply reached.invariant
  · rintro other running rfl
    rw [terminal] at running
    cases running
  · rfl
  · rintro other kind running rfl
    rw [terminal] at running
    cases running

/-- A step that faults leaves the program counter and all frames as they were and faults there. If
the budget is spent, the step count and the pending arguments stay as well; otherwise the
instruction is counted, whatever it faults over, and the pending arguments stay unless it is a call,
which leaves none. From then on the machine stays as it is, whatever the host does with it, and its
outcome is the fault. Nothing is asked about how the machine came to its state. -/
theorem faulting_step_is_atomic (running : machine.isRunning = true)
    (faulted : (machine.step setting).status = .faulted fault) :
    let after := machine.step setting
    (after.pc = machine.pc ∧ after.frame = machine.frame ∧ after.callers = machine.callers ∧
      fault.pc = machine.pc) ∧
    ((∃ limit ∈ setting.stepLimit, limit ≤ machine.steps ∧
        fault.kind = .stepLimitExceeded limit ∧ after.steps = machine.steps ∧
        after.pending = machine.pending) ∨
      (∀ limit ∈ setting.stepLimit, machine.steps < limit) ∧ after.steps = machine.steps + 1 ∧
        ∃ instruction, setting.program.get? machine.pc = some instruction ∧
          after.pending = if instruction.isCall then [] else machine.pending) ∧
    ∀ later, Reaches setting after later →
      later = after ∧ ∀ fuel, (later.run setting fuel).outcome? = some (.error fault) := by
  intro after
  have terminal : after.isRunning = false := by
    rw [isRunning, faulted]
    rfl
  have final : ∀ later, Reaches setting after later →
      later = after ∧ ∀ fuel, (later.run setting fuel).outcome? = some (.error fault) := by
    intro later reached
    have same := reached.eq_of_terminal terminal
    refine ⟨same, ?_⟩
    intro fuel
    rw [same, run, run_until_of_terminal setting _ fuel terminal, outcome?, faulted]
  rcases step_of_fault running faulted with ⟨limit, limited, spent, same⟩ |
    ⟨budget, instruction, kind, fetched, same⟩
  · have left : after = machine.fail (.stepLimitExceeded limit) := same
    rw [same] at faulted
    cases faulted
    refine ⟨?_, .inl ⟨limit, limited, spent, rfl, ?_⟩, final⟩
    · rw [left]
      exact ⟨rfl, rfl, rfl, rfl⟩
    · rw [left]
      exact ⟨rfl, rfl⟩
  · have left : after = { machine.counted with
        pending := if instruction.isCall then [] else machine.pending }.fail kind := same
    rw [same] at faulted
    cases faulted
    refine ⟨?_, .inr ⟨budget, ?_, instruction, fetched, ?_⟩, final⟩
    · rw [left]
      exact ⟨rfl, rfl, rfl, rfl⟩
    · rw [left]
      rfl
    · rw [left]
      rfl

def mixedCall : Program :=
  .ofParts
    [.argument (.literal (.integer 7)), .call (some "r") ⟨"f", true, some 3⟩,
      .ret (some (.variable "r")), .argument (.variable "x"), .argument (.literal (.text "a")),
      .call (some "y") ⟨"min", true, none⟩, .ret (some (.variable "y"))]
    [("main", 0), ("f", 3)]

def mixedCallGlobals : GlobalTable :=
  (GlobalTable.ofProgram mixedCall).installPrelude.defineFunction "f" 3 ["x"]

/-- The call faults over its arguments and takes them; refused by the step limit, it leaves them. -/
theorem faulting_native_call_is_atomic :
    let setting := Setting.ofConfig mixedCall mixedCallGlobals {}
    let brief := Setting.ofConfig mixedCall mixedCallGlobals { stepLimit := some 4 }
    let before := (start mixedCall mixedCallGlobals {}).run setting 4
    let after := before.step setting
    let refused := before.step brief
    before.depth = 2 ∧ before.pending = [.integer 7, .text "a"] ∧
      after.status = .faulted ⟨.typeMismatch .integer .text (.native "min"), 5⟩ ∧
      after.frame = before.frame ∧ after.callers = before.callers ∧
      after.steps = before.steps + 1 ∧ after.pending = [] ∧
      (∀ later, Reaches setting after later → later = after) ∧
      refused.status = .faulted ⟨.stepLimitExceeded 4, 5⟩ ∧
      refused.frame = before.frame ∧ refused.callers = before.callers ∧
      refused.steps = before.steps ∧ refused.pending = before.pending := by
  intro setting brief before after refused
  have running : before.isRunning = true := by decide +kernel
  have faulted : after.status = .faulted ⟨.typeMismatch .integer .text (.native "min"), 5⟩ := by
    decide +kernel
  have stopped : refused.status = .faulted ⟨.stepLimitExceeded 4, 5⟩ := by decide +kernel
  have fetched : setting.program.get? before.pc = some (.call (some "y") ⟨"min", true, none⟩) := by
    decide +kernel
  obtain ⟨⟨-, frame, callers, -⟩, counted, final⟩ := faulting_step_is_atomic running faulted
  obtain ⟨⟨-, sameFrame, sameCallers, -⟩, uncounted, -⟩ := faulting_step_is_atomic running stopped
  rcases counted with ⟨limit, -, -, limited, -⟩ | ⟨-, steps, instruction, found, pending⟩
  · cases limited
  · rcases uncounted with ⟨limit, -, -, -, sameSteps, samePending⟩ | ⟨budget, -⟩
    · rw [fetched] at found
      cases found
      exact ⟨by decide +kernel, by decide +kernel, faulted, frame, callers, steps, pending,
        fun later reached => (final later reached).1, stopped, sameFrame, sameCallers, sameSteps,
        samePending⟩
    · exact absurd (budget 4 rfl) (by decide +kernel)

end Machine

end ThreeAddress
