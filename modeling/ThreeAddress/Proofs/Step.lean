import ThreeAddress.Proofs.OperandFault

/-!
All that one step of the machine can do. An instruction that stays in the executing frame moves on in
it, with possibly other variables and pending arguments, or stops the machine; a call of a function
pushes one frame; a return, explicit or at the end of the program, pops one. Everything but the
implicit return at the end needs budget for one more step.
-/

namespace ThreeAddress

def Instruction.JumpsTo (instruction : Instruction) (pc : Nat) : Prop :=
  match instruction with
  | .goto target | .branch _ _ target => target.pc = pc
  | _ => False

def Frame.receive (frame : Frame) (dest : Option String) (value : Option Value) : Frame :=
  match dest, value with
  | some name, some value => { frame with environment := frame.environment.insert name value }
  | _, _ => frame

@[simp] theorem Frame.receive_function (frame : Frame) (dest : Option String)
    (value : Option Value) : (frame.receive dest value).function = frame.function := by
  unfold receive
  split <;> rfl

@[simp] theorem Frame.receive_return_pc (frame : Frame) (dest : Option String)
    (value : Option Value) : (frame.receive dest value).returnPc = frame.returnPc := by
  unfold receive
  split <;> rfl

@[simp] theorem Frame.receive_dest (frame : Frame) (dest : Option String)
    (value : Option Value) : (frame.receive dest value).dest = frame.dest := by
  unfold receive
  split <;> rfl

namespace Machine

variable {setting : Setting} {machine : Machine} {instruction : Instruction}

/-- The same activations are live, with possibly other variables in the innermost. -/
structure Keeps (before after : Machine) : Prop where
  callers : after.callers = before.callers
  function : after.frame.function = before.frame.function
  returnPc : after.frame.returnPc = before.frame.returnPc
  dest : after.frame.dest = before.frame.dest

/-- The instruction at the program counter leaves the executing frame and hands `value` back. -/
inductive Returns (setting : Setting) (machine : Machine) : Option Value → Prop where
  | offEnd (outside : setting.program.get? machine.pc = none) : Returns setting machine none
  | bare (fetched : setting.program.get? machine.pc = some (.ret none)) :
      Returns setting machine none
  | carrying {operand : Operand} {value : Value}
      (fetched : setting.program.get? machine.pc = some (.ret (some operand)))
      (evaluated : machine.evaluate setting operand = .ok value) :
      Returns setting machine (some value)

structure Enters (setting : Setting) (machine : Machine) (dest : Option String) (callee : Callee)
    (entry : FunctionEntry) : Prop where
  fetched : setting.program.get? machine.pc = some (.call dest callee)
  found : setting.globals.get? callee.name = some (.function entry)
  matched : machine.pending.length = entry.params.length
  room : machine.depth < setting.maxDepth

inductive Stops (setting : Setting) (machine : Machine) : Instruction → FaultKind → Prop where
  | operands {instruction : Instruction} {kind : FaultKind} (raised : kind.OfOperands) :
      Stops setting machine instruction kind
  | callee {dest : Option String} {callee : Callee}
      (unknown : ∀ global ∈ setting.globals.get? callee.name, global.isCallable = false) :
      Stops setting machine (.call dest callee) (.unknownCallee callee.name)
  | depth {dest : Option String} {callee : Callee} (full : setting.maxDepth ≤ machine.depth) :
      Stops setting machine (.call dest callee) (.callDepthExceeded setting.maxDepth)
  | native {dest : Option String} {callee : Callee} {native : Native} {kind : FaultKind}
      (found : setting.globals.get? callee.name = some (.native native))
      (raised : native.call machine.pending = .error kind) :
      Stops setting machine (.call dest callee) kind

inductive Stays (setting : Setting) (machine : Machine) (instruction : Instruction) :
    Machine → Prop where
  | moved (environment : Environment) (pending : List Value) {pc : Nat}
      (reached : pc = machine.pc + 1 ∨ instruction.JumpsTo pc) :
      Stays setting machine instruction
        { machine with
          frame := { machine.frame with environment := environment }
          pending := pending
          pc := pc }
  | stopped (pending : List Value) {kind : FaultKind}
      (stops : Stops setting machine instruction kind) :
      Stays setting machine instruction ({ machine with pending := pending }.fail kind)

def counted (machine : Machine) : Machine := { machine with steps := machine.steps + 1 }

inductive Stepped (setting : Setting) (machine : Machine) : Machine → Prop where
  | ended (outside : setting.program.get? machine.pc = none) :
      Stepped setting machine (machine.returnWith none)
  | exhausted {instruction : Instruction} {limit : Nat}
      (fetched : setting.program.get? machine.pc = some instruction)
      (limited : limit ∈ setting.stepLimit) (spent : limit ≤ machine.steps) :
      Stepped setting machine (machine.fail (.stepLimitExceeded limit))
  | stayed {instruction : Instruction} {after : Machine}
      (fetched : setting.program.get? machine.pc = some instruction)
      (budget : ∀ limit ∈ setting.stepLimit, machine.steps < limit)
      (stays : Stays setting machine.counted instruction after) : Stepped setting machine after
  | entered {dest : Option String} {callee : Callee} {entry : FunctionEntry}
      (budget : ∀ limit ∈ setting.stepLimit, machine.steps < limit)
      (enters : Enters setting machine dest callee entry) :
      Stepped setting machine
        ({ machine.counted with pending := [] }.enter callee.name dest entry machine.pending)
  | returned {value : Option Value}
      (budget : ∀ limit ∈ setting.stepLimit, machine.steps < limit)
      (returns : Returns setting machine value) :
      Stepped setting machine (machine.counted.returnWith value)

theorem status_of_running (running : machine.isRunning = true) : machine.status = .running := by
  rw [isRunning] at running
  cases held : machine.status <;> simp_all [Status.isRunning]

theorem keeps_fail (machine : Machine) (kind : FaultKind) : Keeps machine (machine.fail kind) :=
  ⟨rfl, rfl, rfl, rfl⟩

theorem Keeps.of_counted {after : Machine} (kept : Keeps machine.counted after) :
    Keeps machine after := ⟨kept.callers, kept.function, kept.returnPc, kept.dest⟩

theorem Stays.keeps {after : Machine} (stays : Stays setting machine instruction after) :
    Keeps machine after := by
  cases stays with
  | moved environment pending reached => exact ⟨rfl, rfl, rfl, rfl⟩
  | stopped pending stops => exact ⟨rfl, rfl, rfl, rfl⟩

theorem return_with_of_outermost (callers : machine.callers = []) (value : Option Value) :
    machine.returnWith value = { machine with status := .halted value } := by
  simp only [returnWith, callers]

theorem return_with_of_callers {outer : Frame} {below : List Frame}
    (callers : machine.callers = outer :: below) (value : Option Value) :
    machine.returnWith value =
      { machine with
        callers := below
        frame := outer.receive machine.frame.dest value
        pc := machine.frame.returnPc.getD machine.pc } := by
  simp only [returnWith, callers]
  cases machine.frame.returnPc with
  | none =>
      cases machine.frame.dest with
      | none => rfl
      | some name => cases value <;> rfl
  | some pc =>
      cases machine.frame.dest with
      | none => rfl
      | some name => cases value <;> rfl

theorem return_with_unfaulted (running : machine.status = .running) (value : Option Value)
    (fault : Fault) : (machine.returnWith value).status ≠ .faulted fault := by
  cases callers : machine.callers with
  | nil =>
      rw [return_with_of_outermost callers]
      nofun
  | cons outer below =>
      rw [return_with_of_callers callers]
      intro faulted
      cases running.symm.trans faulted

theorem with_value_cases (setting : Setting) (machine : Machine) (operand : Operand)
    (continuation : Value → Machine) :
    (∃ value, machine.evaluate setting operand = .ok value ∧
        machine.withValue setting operand continuation = continuation value) ∨
      ∃ kind, kind.OfOperands ∧
        machine.withValue setting operand continuation = machine.fail kind := by
  cases evaluated : machine.evaluate setting operand with
  | ok value => exact .inl ⟨value, rfl, by rw [withValue, evaluated]⟩
  | error kind =>
      have raised := operand_faults_evaluate setting machine operand kind evaluated
      exact .inr ⟨kind, raised, by rw [withValue, evaluated]⟩

theorem stays_with_value {operand : Operand} {continuation : Value → Machine}
    (stays : ∀ value, Stays setting machine instruction (continuation value)) :
    Stays setting machine instruction (machine.withValue setting operand continuation) := by
  rcases with_value_cases setting machine operand continuation with
    ⟨value, -, same⟩ | ⟨kind, raised, same⟩
  · rw [same]
    exact stays value
  · rw [same]
    exact .stopped machine.pending (.operands raised)

section FunctionCall

variable {dest : Option String} {callee : Callee} {entry : FunctionEntry}
  (found : setting.globals.get? callee.name = some (.function entry))

include found

theorem call_of_wrong_count (wrong : machine.pending.length ≠ entry.params.length) :
    machine.call setting dest callee =
      { machine with pending := [] }.fail
        (.arity callee.name entry.params.length machine.pending.length) := by
  simp only [call, found]
  exact if_pos wrong

theorem call_of_full (matched : machine.pending.length = entry.params.length)
    (full : setting.maxDepth ≤ machine.depth) :
    machine.call setting dest callee =
      { machine with pending := [] }.fail (.callDepthExceeded setting.maxDepth) := by
  simp only [call, found]
  exact (if_neg (not_not_intro matched)).trans (if_pos full)

theorem call_of_room (matched : machine.pending.length = entry.params.length)
    (room : machine.depth < setting.maxDepth) :
    machine.call setting dest callee =
      { machine with pending := [] }.enter callee.name dest entry machine.pending := by
  simp only [call, found]
  exact (if_neg (not_not_intro matched)).trans (if_neg (Nat.not_le.2 room))

end FunctionCall

theorem call_cases (setting : Setting) (machine : Machine) (dest : Option String)
    (callee : Callee) :
    Stays setting machine (.call dest callee) (machine.call setting dest callee) ∨
      ∃ entry, setting.globals.get? callee.name = some (.function entry) ∧
        machine.pending.length = entry.params.length ∧ machine.depth < setting.maxDepth ∧
        machine.call setting dest callee =
          { machine with pending := [] }.enter callee.name dest entry machine.pending := by
  cases found : setting.globals.get? callee.name with
  | none =>
      left
      simp only [call, found]
      exact .stopped [] (.callee (by rw [found]; nofun))
  | some global =>
      cases global with
      | value value =>
          left
          simp only [call, found]
          refine .stopped [] (.callee ?_)
          rw [found]
          rintro other ⟨⟩
          rfl
      | native native =>
          left
          simp only [call, found]
          split
          · cases dest with
            | none => exact .moved _ [] (.inl rfl)
            | some name => exact .moved _ [] (.inl rfl)
          · rename_i failed
            exact .stopped [] (.native found failed)
      | function entry =>
          by_cases matched : machine.pending.length = entry.params.length
          · by_cases room : machine.depth < setting.maxDepth
            · right
              exact ⟨entry, rfl, matched, room, call_of_room found matched room⟩
            · left
              have full : setting.maxDepth ≤ machine.depth := Nat.not_lt.1 room
              rw [call_of_full found matched full]
              exact .stopped [] (.depth full)
          · left
            rw [call_of_wrong_count found matched]
            exact .stopped [] (.operands trivial)

theorem execute_cases (fetched : setting.program.get? machine.pc = some instruction) :
    Stays setting machine.counted instruction (machine.counted.execute setting instruction) ∨
      (∃ dest callee entry, Enters setting machine dest callee entry ∧
        machine.counted.execute setting instruction =
          { machine.counted with pending := [] }.enter callee.name dest entry machine.pending) ∨
      ∃ value, Returns setting machine value ∧
        machine.counted.execute setting instruction = machine.counted.returnWith value := by
  cases instruction with
  | assign dest value =>
      left
      apply stays_with_value
      intro value
      exact .moved _ _ (.inl rfl)
  | binary dest left operator right =>
      left
      apply stays_with_value
      intro first
      apply stays_with_value
      intro second
      split
      · exact .moved _ _ (.inl rfl)
      · rename_i failed
        exact .stopped _ (.operands (operator.operand_faults_apply first second _ failed))
  | goto target => exact .inl (.moved _ _ (.inr rfl))
  | branch polarity condition target =>
      left
      apply stays_with_value
      intro value
      split
      · split
        · exact .moved _ _ (.inr rfl)
        · exact .moved _ _ (.inl rfl)
      · exact .stopped _ (.operands trivial)
  | argument value =>
      left
      apply stays_with_value
      intro value
      exact .moved _ _ (.inl rfl)
  | call dest callee =>
      rcases call_cases setting machine.counted dest callee with stays | ⟨entry, found, matched, room,
        entered⟩
      · exact .inl stays
      · exact .inr (.inl ⟨dest, callee, entry, ⟨fetched, found, matched, room⟩, entered⟩)
  | ret value =>
      cases value with
      | none => exact .inr (.inr ⟨none, .bare fetched, rfl⟩)
      | some operand =>
          rcases with_value_cases setting machine.counted operand
            fun value => machine.counted.returnWith (some value) with
            ⟨value, evaluated, same⟩ | ⟨kind, raised, same⟩
          · exact .inr (.inr ⟨some value, .carrying fetched evaluated, same⟩)
          · left
            rw [execute, same]
            exact .stopped _ (.operands raised)
  | labelMarker name => exact .inl (.moved _ _ (.inl rfl))

theorem step_of_ended {setting : Setting} (running : machine.isRunning = true)
    (ended : setting.program.get? machine.pc = none) :
    machine.step setting = machine.returnWith none := by
  rw [step, if_pos running, proceed, ended]

theorem step_of_fetched {setting : Setting} {instruction : Instruction}
    (running : machine.isRunning = true)
    (fetched : setting.program.get? machine.pc = some instruction)
    (budget : ∀ limit ∈ setting.stepLimit, machine.steps < limit) :
    machine.step setting = machine.counted.execute setting instruction := by
  rw [step, if_pos running]
  simp only [proceed, fetched]
  cases limited : setting.stepLimit with
  | none => rfl
  | some limit => exact if_neg (Nat.not_le.2 (budget limit limited))

theorem step_of_spent {setting : Setting} {instruction : Instruction} {limit : Nat}
    (running : machine.isRunning = true)
    (fetched : setting.program.get? machine.pc = some instruction)
    (limited : limit ∈ setting.stepLimit) (spent : limit ≤ machine.steps) :
    machine.step setting = machine.fail (.stepLimitExceeded limit) := by
  rw [step, if_pos running]
  simp only [proceed, fetched, Option.mem_def.1 limited, if_pos spent]

theorem budget_or_spent (setting : Setting) (machine : Machine) :
    (∀ limit ∈ setting.stepLimit, machine.steps < limit) ∨
      ∃ limit ∈ setting.stepLimit, limit ≤ machine.steps := by
  cases limited : setting.stepLimit with
  | none => exact .inl nofun
  | some limit =>
      rcases Nat.lt_or_ge machine.steps limit with less | spent
      · left
        rintro other ⟨⟩
        exact less
      · exact .inr ⟨limit, rfl, spent⟩

theorem stepped (setting : Setting) (running : machine.isRunning = true) :
    Stepped setting machine (machine.step setting) := by
  cases fetched : setting.program.get? machine.pc with
  | none =>
      rw [step_of_ended running fetched]
      exact .ended fetched
  | some instruction =>
      rcases budget_or_spent setting machine with budget | ⟨limit, limited, spent⟩
      · rw [step_of_fetched running fetched budget]
        rcases execute_cases fetched with stays | ⟨dest, callee, entry, enters, same⟩ |
          ⟨value, returns, same⟩
        · exact .stayed fetched budget stays
        · rw [same]
          exact .entered budget enters
        · rw [same]
          exact .returned budget returns
      · rw [step_of_spent running fetched limited spent]
        exact .exhausted fetched limited spent

/-- A step that stops the machine does so at the instruction it stands at: because the budget is
spent, or because of the instruction. All frames stay as they are. -/
theorem step_of_faulted {fault : Fault} (running : machine.isRunning = true)
    (faulted : (machine.step setting).status = .faulted fault) :
    ∃ instruction, setting.program.get? machine.pc = some instruction ∧
      ((∃ limit ∈ setting.stepLimit, limit ≤ machine.steps ∧
          machine.step setting = machine.fail (.stepLimitExceeded limit)) ∨
        (∀ limit ∈ setting.stepLimit, machine.steps < limit) ∧
          ∃ pending kind, Stops setting machine.counted instruction kind ∧
            machine.step setting = { machine.counted with pending := pending }.fail kind) := by
  have status := status_of_running running
  have outcome := stepped setting running
  generalize machine.step setting = after at outcome faulted
  cases outcome with
  | ended outside => exact absurd faulted (return_with_unfaulted status none fault)
  | exhausted fetched limited spent => exact ⟨_, fetched, .inl ⟨_, limited, spent, rfl⟩⟩
  | stayed fetched budget stays =>
      cases stays with
      | moved environment pending reached => cases status.symm.trans faulted
      | stopped pending stops => exact ⟨_, fetched, .inr ⟨budget, pending, _, stops, rfl⟩⟩
  | entered budget enters => cases status.symm.trans faulted
  | returned budget returns =>
      exact absurd faulted (return_with_unfaulted (by exact status) _ fault)

theorem step_cases (setting : Setting) (running : machine.isRunning = true) :
    Keeps machine (machine.step setting) ∨
      (∃ dest callee entry, Enters setting machine dest callee entry ∧
        machine.step setting =
          { machine.counted with pending := [] }.enter callee.name dest entry machine.pending) ∨
      ∃ value steps, Returns setting machine value ∧
        machine.step setting = { machine with steps := steps }.returnWith value := by
  have outcome := stepped setting running
  generalize machine.step setting = after at outcome
  cases outcome with
  | ended outside => exact .inr (.inr ⟨none, machine.steps, .offEnd outside, rfl⟩)
  | exhausted fetched limited spent => exact .inl (keeps_fail machine _)
  | stayed fetched budget stays => exact .inl stays.keeps.of_counted
  | entered budget enters => exact .inr (.inl ⟨_, _, _, enters, rfl⟩)
  | returned budget returns => exact .inr (.inr ⟨_, machine.steps + 1, returns, rfl⟩)

end Machine

end ThreeAddress
