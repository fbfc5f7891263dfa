import ThreeAddress.Proofs.CallIsolation
import ThreeAddress.Proofs.Grammar

/-!
Straight lines. A program without jumps, calls and returns executes its instructions one after
another, one step each. It comes to its end, or to the first instruction that fails, or to the step
limit, whichever is first, and on the way its variables are the fold of the assignments so far.
-/

namespace ThreeAddress

/-- Nothing but the next instruction can come after this one. -/
def Instruction.isStraight : Instruction → Bool
  | .goto _ | .branch .. | .call .. | .ret _ => false
  | .assign .. | .binary .. | .argument _ | .labelMarker _ => true

def Operand.valueIn (setting : Setting) (environment : Environment) (operand : Operand) :
    Except FaultKind Value :=
  { Machine.blank [] with frame := ⟨Machine.topLevel, none, environment, none⟩ }.evaluate setting
    operand

/-- What an instruction of a straight line makes of the variables. An argument is evaluated and
binds none. -/
def Instruction.assigns (setting : Setting) (environment : Environment) :
    Instruction → Except FaultKind Environment
  | .assign dest value => do
      return environment.insert dest (← value.valueIn setting environment)
  | .binary dest left operator right => do
      let first ← left.valueIn setting environment
      let second ← right.valueIn setting environment
      return environment.insert dest (← operator.apply first second)
  | .argument value => do
      let _ ← value.valueIn setting environment
      return environment
  | .goto _ | .branch .. | .call .. | .ret _ | .labelMarker _ => .ok environment

/-- The variables after all instructions of a list, or the fault of the first that fails. -/
def assignAll (setting : Setting) (environment : Environment) (code : List Instruction) :
    Except FaultKind Environment :=
  code.foldlM (Instruction.assigns setting) environment

section Fold

variable {setting : Setting} {bindings environment : Environment} {code : List Instruction}

theorem assign_all_take_succ {count : Nat} {instruction : Instruction}
    (assigned : assignAll setting bindings (code.take count) = .ok environment)
    (here : code[count]? = some instruction) :
    assignAll setting bindings (code.take (count + 1)) =
      instruction.assigns setting environment := by
  have last : assignAll setting environment [instruction] =
      instruction.assigns setting environment := by
    rw [assignAll, List.foldlM_cons]
    cases instruction.assigns setting environment <;> rfl
  rw [List.take_add_one, here, assignAll, List.foldlM_append, ← assignAll, assigned]
  exact last

/-- If a number of instructions succeed, so does any smaller number. -/
theorem assign_all_take_of_le {count fewer : Nat} (order : fewer ≤ count)
    (assigned : assignAll setting bindings (code.take count) = .ok environment) :
    ∃ before, assignAll setting bindings (code.take fewer) = .ok before := by
  obtain ⟨more, rfl⟩ := Nat.exists_eq_add_of_le order
  rw [List.take_add, assignAll, List.foldlM_append] at assigned
  obtain ⟨before, front, -⟩ := except_bind_eq_ok.1 assigned
  exact ⟨before, front⟩

end Fold

namespace Machine

variable {setting : Setting} {machine origin : Machine} {instruction : Instruction}

theorem evaluate_eq_value_in (setting : Setting) (machine : Machine) (operand : Operand) :
    machine.evaluate setting operand = operand.valueIn setting machine.frame.environment := by
  cases operand <;> rfl

theorem execute_of_straight (setting : Setting) (machine : Machine)
    (straight : instruction.isStraight = true) :
    ∃ pending, machine.execute setting instruction =
      match instruction.assigns setting machine.frame.environment with
      | .ok environment =>
          { machine with
            frame := { machine.frame with environment := environment }
            pending := pending
            pc := machine.pc + 1 }
      | .error kind => machine.fail kind := by
  cases instruction with
  | assign dest value =>
      simp only [execute, withValue, evaluate_eq_value_in, Instruction.assigns]
      cases value.valueIn setting machine.frame.environment <;> exact ⟨machine.pending, rfl⟩
  | binary dest left operator right =>
      simp only [execute, withValue, evaluate_eq_value_in, Instruction.assigns]
      cases left.valueIn setting machine.frame.environment with
      | error kind => exact ⟨machine.pending, rfl⟩
      | ok first =>
          cases right.valueIn setting machine.frame.environment with
          | error kind => exact ⟨machine.pending, rfl⟩
          | ok second =>
              dsimp only [bind, Except.bind]
              cases operator.apply first second <;> exact ⟨machine.pending, rfl⟩
  | argument value =>
      simp only [execute, withValue, evaluate_eq_value_in, Instruction.assigns]
      cases value.valueIn setting machine.frame.environment with
      | error kind => exact ⟨machine.pending, rfl⟩
      | ok result => exact ⟨machine.pending ++ [result], rfl⟩
  | labelMarker name => exact ⟨machine.pending, rfl⟩
  | goto | branch | call | ret => cases straight

structure InLine (name : String) (first count : Nat) (environment : Environment)
    (machine : Machine) : Prop where
  running : machine.isRunning = true
  callers : machine.callers = []
  frame : machine.frame = ⟨name, none, environment, none⟩
  pc : machine.pc = first + count
  steps : machine.steps = count

section Line

variable {name : String} {first count : Nat} {environment : Environment}

theorem InLine.step_eq (inLine : InLine name first count environment machine)
    (fetched : setting.program.get? (first + count) = some instruction)
    (straight : instruction.isStraight = true)
    (budget : ∀ limit ∈ setting.stepLimit, count < limit) :
    ∃ pending, machine.step setting =
      match instruction.assigns setting environment with
      | .ok next =>
          { machine.counted with
            frame := ⟨name, none, next, none⟩
            pending := pending
            pc := machine.pc + 1 }
      | .error kind => machine.counted.fail kind := by
  rw [← inLine.pc] at fetched
  rw [← inLine.steps] at budget
  obtain ⟨pending, executed⟩ := execute_of_straight setting machine.counted straight
  have frame : machine.counted.frame = ⟨name, none, environment, none⟩ := inLine.frame
  rw [frame] at executed
  rw [step_of_fetched inLine.running fetched budget, executed]
  exact ⟨pending, rfl⟩

theorem InLine.step_of_assigned {next : Environment}
    (inLine : InLine name first count environment machine)
    (fetched : setting.program.get? (first + count) = some instruction)
    (straight : instruction.isStraight = true)
    (budget : ∀ limit ∈ setting.stepLimit, count < limit)
    (assigned : instruction.assigns setting environment = .ok next) :
    InLine name first (count + 1) next (machine.step setting) := by
  obtain ⟨pending, stepped⟩ := inLine.step_eq fetched straight budget
  rw [stepped, assigned]
  exact ⟨inLine.running, inLine.callers, rfl, congrArg (· + 1) inLine.pc,
    congrArg (· + 1) inLine.steps⟩

theorem InLine.step_of_ended (inLine : InLine name first count environment machine)
    (ended : setting.program.get? (first + count) = none) :
    machine.step setting = { machine with status := .halted none, steps := count } := by
  rw [← inLine.pc] at ended
  rw [Machine.step_of_ended inLine.running ended, return_with_of_outermost inLine.callers,
    ← inLine.steps]

theorem InLine.step_of_spent (inLine : InLine name first count environment machine)
    (fetched : setting.program.get? (first + count) = some instruction)
    (spent : count ∈ setting.stepLimit) :
    machine.step setting =
      { machine with
        status := .faulted ⟨.stepLimitExceeded count, first + count⟩
        steps := count } := by
  rw [← inLine.pc] at fetched
  rw [Machine.step_of_spent inLine.running fetched spent (Nat.le_of_eq inLine.steps.symm),
    ← inLine.pc, ← inLine.steps]
  rfl

end Line

structure Begins (setting : Setting) (name : String) (first : Nat) (bindings : Environment)
    (code : List Instruction) (origin : Machine) : Prop where
  fetched : ∀ index, setting.program.get? (first + index) = code[index]?
  straight : ∀ instruction ∈ code, instruction.isStraight = true
  inLine : InLine name first 0 bindings origin

/-- The machine passes `count` instructions of the line. The step after them stops it where it
stands. -/
structure StopsAfter (setting : Setting) (bindings : Environment) (code : List Instruction)
    (origin : Machine) (count : Nat) (status : Status) (steps : Nat) (environment : Environment) :
    Prop where
  inside : count ≤ code.length
  budget : ∀ limit ∈ setting.stepLimit, count ≤ limit
  assigned : assignAll setting bindings (code.take count) = .ok environment
  terminal : status.isRunning = false
  stopped : (origin.run setting count).step setting =
    { origin.run setting count with status := status, steps := steps }

/-- After `index` steps the variables are the fold of the instructions passed so far, and while the
machine runs each of them has taken one step. -/
structure Folds (setting : Setting) (bindings : Environment) (code : List Instruction)
    (first index : Nat) (machine : Machine) : Prop where
  environment : assignAll setting bindings (code.take (machine.pc - first)) =
    .ok machine.frame.environment
  paced : machine.isRunning = true → machine.pc = first + index ∧ machine.steps = index

section Run

variable {name : String} {first count steps : Nat} {bindings environment : Environment}
  {code : List Instruction} {status : Status}

theorem Begins.run (begins : Begins setting name first bindings code origin)
    (inside : count ≤ code.length) (budget : ∀ limit ∈ setting.stepLimit, count ≤ limit)
    (assigned : assignAll setting bindings (code.take count) = .ok environment) :
    InLine name first count environment (origin.run setting count) := by
  induction count generalizing environment with
  | zero =>
      cases assigned
      exact begins.inLine
  | succ count induction =>
      obtain ⟨before, front⟩ := assign_all_take_of_le (Nat.le_succ count) assigned
      have here := List.getElem?_eq_getElem (Nat.lt_of_succ_le inside)
      have reached := induction (Nat.le_of_succ_le inside)
        (fun limit limited => Nat.le_of_succ_le (budget limit limited)) front
      rw [assign_all_take_succ front here] at assigned
      rw [run_succ_eq_step]
      exact reached.step_of_assigned ((begins.fetched count).trans here)
        (begins.straight _ (List.mem_of_getElem? here)) budget assigned

theorem StopsAfter.run_eq {fuel : Nat}
    (stops : StopsAfter setting bindings code origin count status steps environment)
    (enough : count + 1 ≤ fuel) :
    origin.run setting fuel =
      { origin.run setting count with status := status, steps := steps } := by
  have last := (run_succ_eq_step setting count origin).trans stops.stopped
  have ended : (origin.run setting (count + 1)).isRunning = false := by
    rw [last]
    exact stops.terminal
  exact (run_of_ended setting ended enough).trans last

/-- At every point of the run the variables are the fold of the instructions passed. -/
theorem StopsAfter.folds (begins : Begins setting name first bindings code origin)
    (stops : StopsAfter setting bindings code origin count status steps environment) (index : Nat) :
    Folds setting bindings code first index (origin.run setting index) := by
  rcases Nat.lt_or_ge count index with later | order
  · have reached := begins.run stops.inside stops.budget stops.assigned
    have ended := stops.terminal
    rw [stops.run_eq later]
    refine ⟨?_, fun running => ?_⟩
    · rw [reached.pc, reached.frame, Nat.add_sub_cancel_left]
      exact stops.assigned
    · cases ended.symm.trans running
  · obtain ⟨before, front⟩ := assign_all_take_of_le order stops.assigned
    have reached := begins.run (Nat.le_trans order stops.inside)
      (fun limit limited => Nat.le_trans order (stops.budget limit limited)) front
    refine ⟨?_, fun _ => ⟨reached.pc, reached.steps⟩⟩
    rw [reached.pc, reached.frame, Nat.add_sub_cancel_left]
    exact front

end Run

end Machine

end ThreeAddress
