import ThreeAddress.Proofs.Limits

/-!
A step limit stops every machine. Instructions are paid for one by one. An implicit return at the
end of the program is free, but it leaves a frame that some call has pushed, so a call pays for two
steps: its own and the return from its frame. A machine therefore ends within one step more than
twice its limit, whatever the program and the global table are.
-/

namespace ThreeAddress

namespace Machine

variable {setting : Setting} {machine : Machine}

/-- The instruction that the next step executes. There is none once the machine has ended, past the
last instruction, or when the budget is spent. -/
def fetched? (setting : Setting) (machine : Machine) : Option Instruction :=
  if machine.isRunning && setting.stepLimit.all (machine.steps < ·) then
    setting.program.get? machine.pc
  else none

def executed (setting : Setting) : Nat → Machine → List Instruction
  | 0, _ => []
  | count + 1, machine =>
      (machine.fetched? setting).toList ++ executed setting count (machine.step setting)

/-- The machine is about to execute an instruction when `limit` steps have been counted. -/
structure Spent (program : Program) (limit : Nat) (machine : Machine) : Prop where
  running : machine.isRunning = true
  steps : machine.steps = limit
  instruction : (program.get? machine.pc).isSome = true

/-- The next step calls a native of which the body itself raises this fault. -/
def Raises (setting : Setting) (kind : FaultKind) (machine : Machine) : Prop :=
  ∃ dest callee native, machine.fetched? setting = some (.call dest callee) ∧
    setting.globals.get? callee.name = some (.native native) ∧
    machine.pending.length = native.arity ∧ native.body machine.pending = .error kind

theorem return_with_steps (machine : Machine) (value : Option Value) :
    (machine.returnWith value).steps = machine.steps := by
  cases callers : machine.callers with
  | nil => rw [return_with_of_outermost callers]
  | cons caller below => rw [return_with_of_callers callers]

theorem Stays.steps {instruction : Instruction} {after : Machine}
    (stays : Stays setting machine instruction after) : after.steps = machine.steps := by
  cases stays with
  | moved environment pending reached => rfl
  | stopped pending stops => rfl

theorem fetched_of_budget (running : machine.isRunning = true)
    (budget : ∀ limit ∈ setting.stepLimit, machine.steps < limit) :
    machine.fetched? setting = setting.program.get? machine.pc := by
  have within : setting.stepLimit.all (machine.steps < ·) = true := by
    rw [Option.all_eq_true]
    intro limit limited
    exact decide_eq_true (budget limit limited)
  rw [fetched?, running, within]
  rfl

theorem fetched_eq_some {instruction : Instruction}
    (fetched : machine.fetched? setting = some instruction) :
    machine.isRunning = true ∧ setting.program.get? machine.pc = some instruction ∧
      ∀ limit ∈ setting.stepLimit, machine.steps < limit := by
  rw [fetched?] at fetched
  split at fetched
  · rename_i going
    obtain ⟨running, within⟩ := Bool.and_eq_true_iff.1 going
    refine ⟨running, fetched, ?_⟩
    intro limit limited
    exact of_decide_eq_true ((Option.all_eq_true _ _).1 within limit limited)
  · cases fetched

theorem step_of_executed {instruction : Instruction}
    (fetched : machine.fetched? setting = some instruction) :
    machine.step setting = machine.counted.execute setting instruction := by
  obtain ⟨running, found, budget⟩ := fetched_eq_some fetched
  exact step_of_fetched running found budget

/-- A step that executes no instruction leaves the machine, returns off the end or faults. -/
theorem step_of_unfetched (unfetched : machine.fetched? setting = none) :
    machine.step setting = machine ∨ machine.step setting = machine.returnWith none ∨
      ∃ kind, machine.step setting = machine.fail kind := by
  cases running : machine.isRunning with
  | false => exact .inl (step_of_terminal setting running)
  | true =>
      cases found : setting.program.get? machine.pc with
      | none => exact .inr (.inl (step_of_ended running found))
      | some instruction =>
          rcases budget_or_spent setting machine with budget | ⟨limit, limited, spent⟩
          · rw [fetched_of_budget running budget, found] at unfetched
            cases unfetched
          · exact .inr (.inr ⟨_, step_of_spent running found limited spent⟩)

theorem steps_execute {instruction : Instruction}
    (fetched : setting.program.get? machine.pc = some instruction) :
    (machine.counted.execute setting instruction).steps = machine.steps + 1 := by
  rcases execute_cases fetched with stays | ⟨dest, callee, entry, -, same⟩ | ⟨value, -, same⟩
  · exact stays.steps
  · rw [same]
    rfl
  · rw [same, return_with_steps]
    rfl

/-- A step is counted exactly if it executes an instruction. -/
theorem steps_step (setting : Setting) (machine : Machine) :
    (machine.step setting).steps =
      machine.steps + (machine.fetched? setting).toList.length := by
  cases fetched : machine.fetched? setting with
  | some instruction =>
      rw [step_of_executed fetched, steps_execute (fetched_eq_some fetched).2.1]
      rfl
  | none =>
      rcases step_of_unfetched fetched with same | same | ⟨kind, same⟩
      · rw [same]
        rfl
      · rw [same, return_with_steps]
        rfl
      · rw [same]
        rfl

theorem steps_run (setting : Setting) (count : Nat) (machine : Machine) :
    (machine.run setting count).steps =
      machine.steps + (machine.executed setting count).length := by
  induction count generalizing machine with
  | zero => rfl
  | succ count induction =>
      rw [run_succ, induction, steps_step, executed, List.length_append, Nat.add_assoc]

/-- A running machine has paid for its steps and for the returns from its live calls. -/
def Paid (machine : Machine) (count : Nat) : Prop :=
  machine.isRunning = true → count + machine.callers.length ≤ 2 * machine.steps

theorem Paid.returnWith {count : Nat} (paid : count + machine.callers.length ≤ 2 * machine.steps)
    (value : Option Value) : Paid (machine.returnWith value) (count + 1) := by
  intro running
  cases callers : machine.callers with
  | nil =>
      -- The outermost frame returns into nothing: the machine has halted.
      rw [return_with_of_outermost callers] at running
      cases running
  | cons caller below =>
      rw [callers, List.length_cons] at paid
      rw [return_with_of_callers callers]
      dsimp only
      omega

/-- One step keeps the account. Only the implicit return adds nothing, and it leaves a frame. -/
theorem Paid.step {count : Nat} (paid : Paid machine count) :
    Paid (machine.step setting) (count + 1) := by
  cases running : machine.isRunning with
  | false =>
      rw [step_of_terminal setting running, Paid, running]
      nofun
  | true =>
      have before := paid running
      have outcome := stepped setting running
      generalize machine.step setting = after at outcome
      cases outcome with
      | ended outside => exact Paid.returnWith before none
      | exhausted fetched limited spent => nofun
      | stayed fetched budget stays =>
          intro still
          rw [stays.keeps.of_counted.callers, stays.steps]
          change _ ≤ 2 * (machine.steps + 1)
          omega
      | entered budget enters =>
          intro still
          change count + 1 + (machine.callers.length + 1) ≤ 2 * (machine.steps + 1)
          omega
      | returned budget returns =>
          have counted : count + machine.counted.callers.length ≤ 2 * machine.counted.steps := by
            change _ ≤ 2 * (machine.steps + 1)
            exact Nat.le_trans before (by omega)
          exact Paid.returnWith counted _

theorem Paid.run {machine : Machine} (paid : Paid machine 0) (setting : Setting) (count : Nat) :
    Paid (machine.run setting count) count := by
  induction count with
  | zero => exact paid
  | succ count induction =>
      rw [run_succ_eq_step]
      exact induction.step

theorem start_fresh (program : Program) (globals : GlobalTable) (config : Config) :
    (start program globals config).callers = [] ∧ (start program globals config).steps = 0 := by
  rw [start]
  split
  · exact ⟨rfl, rfl⟩
  · dsimp only
    split
    · exact ⟨rfl, rfl⟩
    · exact ⟨rfl, rfl⟩

section Limited

variable {program : Program} {globals : GlobalTable} {config : Config} {limit : Nat}

theorem disciplined_run (program : Program) (globals : GlobalTable) (config : Config)
    (count : Nat) : Disciplined (.ofConfig program globals config)
      ((start program globals config).run (.ofConfig program globals config) count) :=
  .of_reaches (.run .origin count)

/-- Under a limit the machine ends: a state that still runs has paid for the steps up to it. -/
theorem run_ends_within_limit (limited : config.stepLimit = some limit) :
    ((start program globals config).run (.ofConfig program globals config)
      (2 * limit + 1)).isRunning = false := by
  have begun : Paid (start program globals config) 0 := by
    intro running
    rw [(start_fresh program globals config).1]
    exact Nat.zero_le _
  rw [← Bool.not_eq_true]
  intro running
  have account := begun.run (.ofConfig program globals config) (2 * limit + 1) running
  have within := (disciplined_run program globals config (2 * limit + 1)).steps limit limited
  omega

/-- A machine that has ended over a step limit was refused an instruction there, or a native has
raised the fault. -/
theorem cause_of_limit_fault (limited : config.stepLimit = some limit) {count bound pc : Nat}
    (faulted : ((start program globals config).run (.ofConfig program globals config)
      count).status = .faulted ⟨.stepLimitExceeded bound, pc⟩) :
    ∃ last, Spent program limit
        ((start program globals config).run (.ofConfig program globals config) last) ∨
      Raises (.ofConfig program globals config) (.stepLimitExceeded bound)
        ((start program globals config).run (.ofConfig program globals config) last) := by
  have ended : ((start program globals config).run (.ofConfig program globals config)
      count).isRunning = false := by
    rw [isRunning, faulted]
    rfl
  have running : (start program globals config).isRunning = true := by
    rw [← Bool.not_eq_false]
    intro refused
    rw [run, run_until_of_terminal _ _ _ refused] at faulted
    exact start_uncut program globals config ⟨_, faulted, trivial⟩
  obtain ⟨last, before, stepped⟩ := exists_last_step running ended
  rw [← stepped] at faulted
  refine ⟨last, ?_⟩
  rcases cause_of_exceeded before faulted with ⟨same, spent, -⟩ |
    ⟨budget, -, dest, callee, native, fetched, found, raised⟩
  · left
    obtain ⟨instruction, fetched, -⟩ := step_of_faulted before faulted
    have within := (disciplined_run program globals config last).steps bound same
    change config.stepLimit = some bound at same
    rw [limited, Option.some.injEq] at same
    subst same
    refine ⟨before, Nat.le_antisymm within spent, ?_⟩
    change program.get? _ = _ at fetched
    rw [fetched]
    rfl
  · right
    rcases Native.call_eq_error_iff.1 raised with ⟨matched, body⟩ | ⟨-, other⟩
    · exact ⟨dest, callee, native, (fetched_of_budget before budget).trans fetched, found, matched,
        body⟩
    · cases other

theorem step_of_raises {kind : FaultKind} (raises : Raises setting kind machine) :
    (machine.step setting).status = .faulted ⟨kind, machine.pc⟩ := by
  obtain ⟨dest, callee, native, fetched, found, matched, raised⟩ := raises
  rw [step_of_executed fetched, execute, call]
  simp only [found]
  have called : native.call machine.counted.pending = .error kind :=
    (Native.call_of_right_count matched).trans raised
  rw [called]
  rfl

theorem step_of_spent_limit (limited : config.stepLimit = some limit)
    (spent : Spent program limit machine) :
    machine.step (.ofConfig program globals config) = machine.fail (.stepLimitExceeded limit) := by
  obtain ⟨instruction, fetched⟩ := Option.isSome_iff_exists.1 spent.instruction
  exact step_of_spent spent.running fetched limited (Nat.le_of_eq spent.steps.symm)

end Limited

/-- A step limit stops every machine. With a limit of `L` the run from the start has ended after
`2 * L + 1` steps at the latest; what it has counted is the instructions it has executed, at most
`L`; implicit returns are free and are made even when the budget is spent; and the run ends over a
step limit exactly if it comes, with `L` steps counted, to another instruction, where it faults, or
if a native that it calls raises this fault. -/
theorem step_limit_stops_run (program : Program) (globals : GlobalTable) (config : Config)
    (limit : Nat) :
    let limited := { config with stepLimit := some limit }
    let setting := Setting.ofConfig program globals limited
    let origin := start program globals limited
    let final := origin.run setting (2 * limit + 1)
    final.isRunning = false ∧
    (∀ fuel, 2 * limit + 1 ≤ fuel → origin.run setting fuel = final) ∧
    final.steps ≤ limit ∧
    final.steps = (origin.executed setting (2 * limit + 1)).length ∧
    (∀ count, (origin.run setting count).isRunning = true →
      program.get? (origin.run setting count).pc = none →
      origin.run setting (count + 1) = (origin.run setting count).returnWith none ∧
      (origin.run setting (count + 1)).steps = (origin.run setting count).steps) ∧
    ((∃ bound pc, final.status = .faulted ⟨.stepLimitExceeded bound, pc⟩) ↔
      ∃ count, Spent program limit (origin.run setting count) ∨
        ∃ bound, Raises setting (.stepLimitExceeded bound) (origin.run setting count)) ∧
    (∀ count, Spent program limit (origin.run setting count) →
      final.status = .faulted ⟨.stepLimitExceeded limit, (origin.run setting count).pc⟩) ∧
    ∀ count bound, Raises setting (.stepLimitExceeded bound) (origin.run setting count) →
      final.status = .faulted ⟨.stepLimitExceeded bound, (origin.run setting count).pc⟩ := by
  intro limited setting origin final
  have bounded : limited.stepLimit = some limit := rfl
  have ended : final.isRunning = false := run_ends_within_limit bounded
  have fresh : origin.steps = 0 := (start_fresh program globals limited).2
  -- A state in which the run has ended is the final one.
  have last : ∀ count, (origin.run setting count).isRunning = false →
      final = origin.run setting count := by
    intro count finished
    rcases Nat.le_total (2 * limit + 1) count with early | late
    · exact (run_of_ended setting ended early).symm
    · exact run_of_ended setting finished late
  have stopped : ∀ count fault,
      ((origin.run setting count).step setting).status = .faulted fault →
      final.status = .faulted fault := by
    intro count fault faulted
    rw [← run_succ_eq_step] at faulted
    rw [last (count + 1) (by rw [isRunning, faulted]; rfl), faulted]
  have refused : ∀ count, Spent program limit (origin.run setting count) →
      final.status = .faulted ⟨.stepLimitExceeded limit, (origin.run setting count).pc⟩ := by
    intro count spent
    exact stopped count _ (by rw [step_of_spent_limit bounded spent]; rfl)
  have raised : ∀ count bound, Raises setting (.stepLimitExceeded bound) (origin.run setting count) →
      final.status = .faulted ⟨.stepLimitExceeded bound, (origin.run setting count).pc⟩ :=
    fun count bound raises => stopped count _ (step_of_raises raises)
  refine ⟨ended, fun fuel enough => run_of_ended setting ended enough,
    (disciplined_run program globals limited _).steps limit bounded, ?_, ?_, ?_, refused, raised⟩
  · rw [steps_run, fresh, Nat.zero_add]
  · intro count running outside
    rw [run_succ_eq_step, step_of_ended running outside]
    exact ⟨rfl, return_with_steps _ none⟩
  · constructor
    · intro exceeded
      obtain ⟨bound, pc, faulted⟩ := exceeded
      obtain ⟨count, spent | raises⟩ := cause_of_limit_fault bounded faulted
      · exact ⟨count, .inl spent⟩
      · exact ⟨count, .inr ⟨bound, raises⟩⟩
    · intro reached
      obtain ⟨count, spent | ⟨bound, raises⟩⟩ := reached
      · exact ⟨limit, _, refused count spent⟩
      · exact ⟨bound, _, raised count bound raises⟩

def bareReturn : Program := .ofParts [.ret none] []

def quotaCall : Program := .ofParts [.call none ⟨"quota", true, none⟩] []

/-- The native reports a limit that is not the machine's. -/
def quotaGlobals : GlobalTable :=
  GlobalTable.empty.defineNative ⟨"quota", 0, fun _ => .error (.stepLimitExceeded 7)⟩

/-- Neither direction holds of the states alone. A machine that has halted keeps its program counter
and may have counted all its steps; and a native may report a step limit long before the budget is
spent. -/
theorem step_limit_not_told_from_states :
    (let setting := Setting.ofConfig bareReturn .empty { stepLimit := some 1 }
      let origin := start bareReturn .empty { stepLimit := some 1 }
      (∃ count, (origin.run setting count).steps = 1 ∧
        (bareReturn.get? (origin.run setting count).pc).isSome = true) ∧
      ¬ ∃ bound pc, (origin.run setting 3).status = .faulted ⟨.stepLimitExceeded bound, pc⟩) ∧
    (let setting := Setting.ofConfig quotaCall quotaGlobals { stepLimit := some 10 }
      let origin := start quotaCall quotaGlobals { stepLimit := some 10 }
      (∃ bound pc, (origin.run setting 21).status = .faulted ⟨.stepLimitExceeded bound, pc⟩) ∧
      ¬ ∃ count, (origin.run setting count).steps = 10) := by
  constructor
  · intro setting origin
    have halted : (origin.run setting 3).status = .halted none := by decide +kernel
    refine ⟨⟨1, by decide +kernel, by decide +kernel⟩, ?_⟩
    rintro ⟨bound, pc, faulted⟩
    cases halted.symm.trans faulted
  · intro setting origin
    have ended : (origin.run setting 1).isRunning = false := by decide +kernel
    have single : (origin.run setting 1).steps = 1 := by decide +kernel
    refine ⟨⟨7, 0, by decide +kernel⟩, ?_⟩
    rintro ⟨count, spent⟩
    cases count with
    | zero => cases spent
    | succ count =>
        rw [run_of_ended setting ended (Nat.le_add_left 1 count), single] at spent
        cases spent

def trailingCall : Program := .ofParts [.call none ⟨"f", true, some 1⟩] [("f", 1)]

-- The bound is met: one instruction, and then two implicit returns that are free.
example :
    let config : Config := { stepLimit := some 1 }
    let setting := Setting.ofConfig trailingCall (.ofProgram trailingCall) config
    let origin := start trailingCall (.ofProgram trailingCall) config
    (origin.run setting 2).isRunning = true ∧
      (origin.run setting 3).status = .halted none ∧ (origin.run setting 3).steps = 1 := by
  decide +kernel

end Machine

end ThreeAddress
