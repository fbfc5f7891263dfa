import ThreeAddress.Proofs.CallStack

/-!
Limits only cut runs short. A program that runs under a step limit and a depth of calls passes through
the same states under wider limits, up to the step at which one of the narrower limits stops it.
-/

namespace ThreeAddress

/-- The other configuration differs in its limits only, and these are no narrower. A missing step
limit is the widest. -/
structure Config.NarrowerThan (config wider : Config) : Prop where
  entry : wider.entry = config.entry
  arguments : wider.arguments = config.arguments
  maxDepth : config.maxDepth ≤ wider.maxDepth
  stepLimit : ∀ bound ∈ wider.stepLimit, ∃ limit ∈ config.stepLimit, limit ≤ bound

structure Setting.NarrowerThan (setting wider : Setting) : Prop where
  program : wider.program = setting.program
  globals : wider.globals = setting.globals
  maxDepth : setting.maxDepth ≤ wider.maxDepth
  stepLimit : ∀ bound ∈ wider.stepLimit, ∃ limit ∈ setting.stepLimit, limit ≤ bound

/-- The host has added no natives of its own. -/
def GlobalTable.OnlyPrelude (table : GlobalTable) : Prop :=
  ∀ name native, table.get? name = some (.native native) → native ∈ Native.prelude

theorem GlobalTable.OnlyPrelude.defineFunction {table : GlobalTable} (plain : table.OnlyPrelude)
    (name : String) (entry : Nat) (params : List String) :
    (table.defineFunction name entry params).OnlyPrelude := by
  intro other native found
  rw [get?, GlobalTable.defineFunction, define, NameMap.find_insert] at found
  split at found
  · cases found
  · exact plain other native found

theorem GlobalTable.only_prelude_of_program (program : Program) :
    (ofProgram program).OnlyPrelude := by
  refine List.foldlRecOn program.labels _ nofun ?_
  intro table plain label member
  exact plain.defineFunction label.1 label.2 []

def FaultKind.OfLimits : FaultKind → Prop
  | .stepLimitExceeded _ | .callDepthExceeded _ => True
  | _ => False

namespace Machine

variable {setting wider : Setting} {machine : Machine}

def CutShort (machine : Machine) : Prop :=
  ∃ fault, machine.status = .faulted fault ∧ fault.kind.OfLimits

theorem CutShort.terminal (cut : CutShort machine) : machine.isRunning = false := by
  obtain ⟨fault, faulted, -⟩ := cut
  rw [isRunning, faulted]
  rfl

theorem evaluate_of_narrower (narrower : setting.NarrowerThan wider) (operand : Operand) :
    machine.evaluate wider operand = machine.evaluate setting operand := by
  cases operand with
  | «variable» name => rfl
  | global name => simp only [evaluate, narrower.globals, narrower.program]
  | literal value => rfl

theorem call_of_narrower (narrower : setting.NarrowerThan wider) (dest : Option String)
    (callee : Callee) :
    machine.call wider dest callee = machine.call setting dest callee ∨
      CutShort (machine.call setting dest callee) := by
  simp only [call, narrower.globals]
  cases setting.globals.get? callee.name with
  | none => exact .inl rfl
  | some global =>
      cases global with
      | value value => exact .inl rfl
      | native native => exact .inl rfl
      | function entry =>
          dsimp only
          split
          · exact .inl rfl
          · by_cases full : setting.maxDepth ≤ depth { machine with pending := [] }
            · right
              rw [if_pos full]
              exact ⟨_, rfl, trivial⟩
            · left
              -- Room under the narrower depth is room under the wider one.
              have room : ¬ wider.maxDepth ≤ depth { machine with pending := [] } :=
                fun wide => full (Nat.le_trans narrower.maxDepth wide)
              rw [if_neg full, if_neg room]

/-- Only calls look at a limit. -/
theorem execute_of_narrower (narrower : setting.NarrowerThan wider) (instruction : Instruction) :
    machine.execute wider instruction = machine.execute setting instruction ∨
      CutShort (machine.execute setting instruction) := by
  cases instruction with
  | call dest callee => exact call_of_narrower narrower dest callee
  | ret value =>
      left
      cases value with
      | none => rfl
      | some operand => simp only [execute, withValue, evaluate_of_narrower narrower]
  | goto | labelMarker => exact .inl rfl
  | assign | binary | branch | argument =>
      left
      simp only [execute, withValue, evaluate_of_narrower narrower]

theorem step_of_narrower (narrower : setting.NarrowerThan wider) :
    machine.step wider = machine.step setting ∨ CutShort (machine.step setting) := by
  cases running : machine.isRunning with
  | false =>
      left
      rw [step_of_terminal setting running, step_of_terminal wider running]
  | true =>
      cases fetched : setting.program.get? machine.pc with
      | none =>
          left
          have ended : wider.program.get? machine.pc = none := by rw [narrower.program, fetched]
          rw [step_of_ended running fetched, step_of_ended running ended]
      | some instruction =>
          have same : wider.program.get? machine.pc = some instruction := by
            rw [narrower.program, fetched]
          rcases budget_or_spent setting machine with budget | ⟨limit, limited, spent⟩
          · have enough : ∀ bound ∈ wider.stepLimit, machine.steps < bound := by
              intro bound limited
              obtain ⟨limit, narrow, below⟩ := narrower.stepLimit bound limited
              exact Nat.lt_of_lt_of_le (budget limit narrow) below
            rw [step_of_fetched running fetched budget, step_of_fetched running same enough]
            exact execute_of_narrower narrower instruction
          · right
            rw [step_of_spent running fetched limited spent]
            exact ⟨_, rfl, trivial⟩

theorem run_of_narrower (narrower : setting.NarrowerThan wider) (count : Nat)
    (uncut : ¬ CutShort (machine.run setting count)) :
    machine.run wider count = machine.run setting count := by
  induction count with
  | zero => rfl
  | succ count induction =>
      rw [run_succ_eq_step] at uncut
      have before : ¬ CutShort (machine.run setting count) := by
        intro cut
        rw [step_of_terminal setting cut.terminal] at uncut
        exact uncut cut
      rw [run_succ_eq_step, run_succ_eq_step, induction before]
      exact (step_of_narrower narrower).resolve_right uncut

/-- The budget stops a machine with a fault over the step limit, or a native that raises it. -/
theorem cause_of_exceeded {limit pc : Nat} (running : machine.isRunning = true)
    (faulted : (machine.step setting).status = .faulted ⟨.stepLimitExceeded limit, pc⟩) :
    (limit ∈ setting.stepLimit ∧ limit ≤ machine.steps ∧
        machine.step setting = machine.fail (.stepLimitExceeded limit)) ∨
      (∀ bound ∈ setting.stepLimit, machine.steps < bound) ∧ pc = machine.pc ∧
        ∃ dest callee native, setting.program.get? machine.pc = some (.call dest callee) ∧
          setting.globals.get? callee.name = some (.native native) ∧
          native.call machine.pending = .error (.stepLimitExceeded limit) := by
  obtain ⟨instruction, fetched, spent | stopped⟩ := step_of_faulted running faulted
  · obtain ⟨other, limited, spent, same⟩ := spent
    rw [same] at faulted
    cases faulted
    exact .inl ⟨limited, spent, same⟩
  · obtain ⟨budget, pending, kind, stops, same⟩ := stopped
    rw [same] at faulted
    cases faulted
    cases stops with
    | operands raised => exact raised.elim
    | native found raised => exact .inr ⟨budget, rfl, _, _, _, fetched, found, raised⟩

/-- The natives of the prelude leave the step limit to the budget. -/
theorem spent_of_step (plain : setting.globals.OnlyPrelude) {limit pc : Nat}
    (running : machine.isRunning = true)
    (faulted : (machine.step setting).status = .faulted ⟨.stepLimitExceeded limit, pc⟩) :
    limit ∈ setting.stepLimit ∧ limit ≤ machine.steps ∧
      machine.step setting = machine.fail (.stepLimitExceeded limit) := by
  rcases cause_of_exceeded running faulted with spent | ⟨-, -, dest, callee, native, -, found, raised⟩
  · exact spent
  · exact (Native.operand_faults_prelude (plain _ _ found) _ _ raised).elim

/-- A run that has ended took a last step from a running state, unless it had ended before. -/
theorem exists_last_step {count : Nat} (running : machine.isRunning = true)
    (ended : (machine.run setting count).isRunning = false) :
    ∃ last, (machine.run setting last).isRunning = true ∧
      (machine.run setting last).step setting = machine.run setting count := by
  induction count with
  | zero =>
      have still : machine.isRunning = false := ended
      rw [running] at still
      cases still
  | succ count induction =>
      rw [run_succ_eq_step] at ended ⊢
      cases before : (machine.run setting count).isRunning with
      | true => exact ⟨count, before, rfl⟩
      | false =>
          rw [step_of_terminal setting before]
          exact induction before

theorem find_entry_error {program : Program} {globals : GlobalTable} {requested : Option String}
    {kind : FaultKind} (failed : findEntry program globals requested = .error kind) :
    ∃ name, kind = .unknownCallee name := by
  cases requested with
  | none =>
      rw [findEntry] at failed
      split at failed
      · cases failed
      · cases failed
  | some name =>
      rw [findEntry] at failed
      split at failed
      · cases failed
      · cases failed
        exact ⟨name, rfl⟩

/-- A machine is created before any limit can stop it. -/
theorem start_uncut (program : Program) (globals : GlobalTable) (config : Config) :
    ¬ CutShort (start program globals config) := by
  rintro ⟨fault, faulted, limited⟩
  rw [start] at faulted
  split at faulted
  · rename_i failed
    obtain ⟨name, rfl⟩ := find_entry_error failed
    cases faulted
    exact limited
  · dsimp only at faulted
    split at faulted
    · cases faulted
    · cases faulted
      exact limited

end Machine

/-- Wider limits change no run. Where the narrower run ends otherwise than over a limit, the wider one
ends in the very same state. And where the narrower one ends over its step limit, the wider one
passes through a running state with that number of steps and the same program counter, frames and
pending arguments, unless it was a native of the host's own that reported the limit. -/
theorem Machine.limits_only_cut_runs (program : Program) (globals : GlobalTable)
    {config wider : Config} (narrower : config.NarrowerThan wider) {count : Nat} {ended : Machine}
    (run : (start program globals config).run (.ofConfig program globals config) count = ended)
    (terminal : ended.isRunning = false) :
    (¬ ended.CutShort →
      (start program globals wider).run (.ofConfig program globals wider) count = ended) ∧
    (globals.OnlyPrelude → ∀ limit pc, ended.status = .faulted ⟨.stepLimitExceeded limit, pc⟩ →
      ∃ earlier passed,
        (start program globals wider).run (.ofConfig program globals wider) earlier = passed ∧
        passed.isRunning = true ∧ passed.steps = limit ∧ passed.pc = ended.pc ∧
        passed.frames = ended.frames ∧ passed.pending = ended.pending) := by
  have settings : (Setting.ofConfig program globals config).NarrowerThan
      (.ofConfig program globals wider) :=
    ⟨rfl, rfl, narrower.maxDepth, narrower.stepLimit⟩
  have started : start program globals wider = start program globals config := by
    rw [start, start, narrower.entry, narrower.arguments]
  rw [started]
  subst run
  refine ⟨run_of_narrower settings count, ?_⟩
  intro plain limit pc faulted
  have running : (start program globals config).isRunning = true := by
    cases begun : (start program globals config).isRunning with
    | true => rfl
    | false =>
        rw [Machine.run, run_until_of_terminal _ _ _ begun] at faulted
        exact absurd ⟨_, faulted, trivial⟩ (start_uncut program globals config)
  obtain ⟨last, before, stepped⟩ := exists_last_step running terminal
  rw [← stepped] at faulted ⊢
  obtain ⟨limited, spent, failed⟩ := spent_of_step plain before faulted
  have disciplined : Disciplined (.ofConfig program globals config)
      ((start program globals config).run (.ofConfig program globals config) last) :=
    .of_reaches (.run .origin last)
  have uncut : ¬ CutShort ((start program globals config).run
      (.ofConfig program globals config) last) := by
    intro cut
    rw [cut.terminal] at before
    cases before
  rw [failed]
  refine ⟨last, _, run_of_narrower settings last uncut, before, ?_, rfl, rfl, rfl⟩
  exact Nat.le_antisymm (disciplined.steps limit limited) spent

namespace Machine

def briefLimits : Config := { stepLimit := some 3, maxDepth := 3 }

theorem limits_only_cut_nested_calls :
    let globals := GlobalTable.ofProgram nestedCalls
    let final := (start nestedCalls globals {}).run (.ofConfig nestedCalls globals {}) 9
    let cut := (start nestedCalls globals briefLimits).run
      (.ofConfig nestedCalls globals briefLimits) 9
    nestedLimits.NarrowerThan {} ∧ briefLimits.NarrowerThan {} ∧ globals.OnlyPrelude ∧
      final = (start nestedCalls globals nestedLimits).run
        (.ofConfig nestedCalls globals nestedLimits) 9 ∧
      final.status = .halted (some (.integer 7)) ∧
      cut.status = .faulted ⟨.stepLimitExceeded 3, 3⟩ ∧
      ∃ earlier passed,
        (start nestedCalls globals {}).run (.ofConfig nestedCalls globals {}) earlier = passed ∧
        passed.isRunning = true ∧ passed.steps = 3 ∧ passed.pc = cut.pc ∧
        passed.frames = cut.frames ∧ passed.pending = cut.pending := by
  intro globals final cut
  have enough : nestedLimits.NarrowerThan {} := ⟨rfl, rfl, by decide, nofun⟩
  have brief : briefLimits.NarrowerThan {} := ⟨rfl, rfl, by decide, nofun⟩
  have plain : globals.OnlyPrelude := GlobalTable.only_prelude_of_program nestedCalls
  have ended : ((start nestedCalls globals nestedLimits).run
      (.ofConfig nestedCalls globals nestedLimits) 9).isRunning = false := by decide +kernel
  have halted : ((start nestedCalls globals nestedLimits).run
      (.ofConfig nestedCalls globals nestedLimits) 9).status = .halted (some (.integer 7)) := by
    decide +kernel
  have uncut : ¬ CutShort ((start nestedCalls globals nestedLimits).run
      (.ofConfig nestedCalls globals nestedLimits) 9) := by
    rintro ⟨fault, faulted, -⟩
    cases halted.symm.trans faulted
  have stopped : cut.isRunning = false := by decide +kernel
  have faulted : cut.status = .faulted ⟨.stepLimitExceeded 3, 3⟩ := by decide +kernel
  have same := (limits_only_cut_runs nestedCalls globals enough rfl ended).1 uncut
  have passed := (limits_only_cut_runs nestedCalls globals brief rfl stopped).2 plain 3 3 faulted
  exact ⟨enough, brief, plain, same, (congrArg status same).trans halted, faulted, passed⟩

end Machine

end ThreeAddress
