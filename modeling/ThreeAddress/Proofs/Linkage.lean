import ThreeAddress.Proofs.Linking
import ThreeAddress.Proofs.CallIsolation

/-!
Static and dynamic linkage agree. Assembly resolves the callee of a call, while the machine looks it up
by name when the call is executed. In a session that was built from text both come to the same: a
callee with an entry is the function at that entry, a callee without one is a native, and no callee
is unknown.
-/

namespace ThreeAddress

def Callee.LinkedIn (globals : GlobalTable) (callee : Callee) : Prop :=
  match callee.entry with
  | some entry => ∃ params, globals.get? callee.name = some (.function ⟨entry, params⟩)
  | none => ∃ native ∈ Native.prelude, native.name = callee.name ∧
      globals.get? callee.name = some (.native native)

def Setting.Linked (setting : Setting) : Prop :=
  ∀ pc dest callee, setting.program.get? pc = some (.call dest callee) →
    callee.LinkedIn setting.globals

/-- A callee is a label of the program, with its program counter, or an external. -/
theorem Program.Means.callee_cases {externals : List String} {sources : List SourceLine}
    {program : Program} (means : Means externals sources program) {pc : Nat} {dest : Option String}
    {callee : Callee} (fetched : program.get? pc = some (.call dest callee)) :
    (∃ entry, callee.entry = some entry ∧ program.label? callee.name = some entry) ∨
      callee.entry = none ∧ program.label? callee.name = none ∧ callee.name ∈ externals := by
  have related := means.fetch pc
  rw [fetched] at related
  generalize (SourceLine.statements sources)[pc]? = statement at related
  cases related with
  | some meant =>
      cases meant with
      | call dest global defined =>
          exact .inl ⟨_, rfl, means.label_eq_some_iff.2 defined⟩
      | callExternal dest undefined known =>
          refine .inr ⟨rfl, ?_, known⟩
          rw [SourceLine.definitions_names, ← means.label_is_some_iff] at undefined
          simpa using undefined

theorem Session.linked_of_source {name source : String} {options : SessionOptions}
    {session : Session} (built : ofSource name source options = .ok session) (config : Config) :
    (session.setting config).Linked := by
  obtain ⟨program, assembled, linked⟩ := of_source_eq_ok_iff.1 built
  have same : session.program = program := by rw [(link_eq_ok_iff.1 linked).2]
  have bare := Program.bare_labels_of_source assembled
  have sound := Program.well_formed_of_source assembled
  have lookup := find_link sound bare linked
  obtain ⟨-, -, sources, -, means⟩ := Program.of_source_eq_ok_iff.1 assembled
  intro pc dest callee fetched
  change session.program.get? pc = _ at fetched
  change callee.LinkedIn session.globals
  rw [same] at fetched
  rw [Callee.LinkedIn]
  rcases means.callee_cases fetched with ⟨entry, resolved, label⟩ | ⟨resolved, missing, known⟩
  · rw [resolved, GlobalTable.get?, bare _ _ label, lookup, label]
    exact ⟨_, rfl⟩
  · rw [externals] at known
    split at known
    · rename_i withPrelude
      simp only [List.mem_map, exists_exists_and_eq_and] at known
      obtain ⟨native, installed, called⟩ := known
      rw [Native.bare_name_of_prelude installed] at called
      have found := Native.of_name_eq_some_iff.2 ⟨installed, called⟩
      rw [resolved, GlobalTable.get?, ← called, Native.bare_name_of_prelude installed, called, lookup,
        missing, found]
      exact ⟨native, installed, called, by rw [if_pos withPrelude]; rfl⟩
    · cases known

namespace Machine

variable {setting : Setting} {machine : Machine}

/-- The call has entered the function `name`: a frame for it stands above those of the caller, and
the machine is at `entry`. -/
structure Entered (before after : Machine) (name : String) (entry : Nat) : Prop where
  running : after.status = .running
  callers : after.callers = before.frame :: before.callers
  function : after.frame.function = name
  pc : after.pc = entry

theorem call_of_function (dest : Option String) {callee : Callee} {entry : FunctionEntry}
    (running : machine.status = .running)
    (found : setting.globals.get? callee.name = some (.function entry)) :
    (machine.call setting dest callee).status =
        .faulted ⟨.arity callee.name entry.params.length machine.pending.length, machine.pc⟩ ∨
      (machine.call setting dest callee).status =
        .faulted ⟨.callDepthExceeded setting.maxDepth, machine.pc⟩ ∨
      Entered machine (machine.call setting dest callee) callee.name entry.entry := by
  simp only [call, found]
  split
  · exact .inl rfl
  · split
    · exact .inr (.inl rfl)
    · exact .inr (.inr ⟨running, rfl, rfl, rfl⟩)

theorem call_of_native {dest : Option String} {callee : Callee} {native : Native}
    (found : setting.globals.get? callee.name = some (.native native)) :
    Keeps machine (machine.call setting dest callee) := by
  rcases call_cases setting machine dest callee with stays | ⟨entry, other, -⟩
  · exact stays.keeps
  · rw [found] at other
    cases other

/-- A linked call whose callee has an entry faults over the number of its arguments or the depth of
calls, or enters the callee there. -/
theorem step_of_resolved_call {dest : Option String} {callee : Callee} {entry : Nat}
    (linked : setting.Linked) (running : machine.isRunning = true)
    (fetched : setting.program.get? machine.pc = some (.call dest callee))
    (budget : ∀ limit ∈ setting.stepLimit, machine.steps < limit)
    (resolved : callee.entry = some entry) :
    (∃ expected actual, (machine.step setting).status =
        .faulted ⟨.arity callee.name expected actual, machine.pc⟩) ∨
      (machine.step setting).status =
        .faulted ⟨.callDepthExceeded setting.maxDepth, machine.pc⟩ ∨
      Entered machine (machine.step setting) callee.name entry := by
  have found := linked machine.pc dest callee fetched
  rw [Callee.LinkedIn, resolved] at found
  obtain ⟨params, held⟩ := found
  have status : machine.counted.status = .running := status_of_running running
  rw [step_of_fetched running fetched budget, execute]
  rcases call_of_function dest status held with arity | depth | entered
  · exact .inl ⟨_, _, arity⟩
  · exact .inr (.inl depth)
  · exact .inr (.inr ⟨entered.running, entered.callers, entered.function, entered.pc⟩)

/-- A linked call whose callee has no entry calls a native and pushes no frame. -/
theorem step_of_external_call {dest : Option String} {callee : Callee}
    (linked : setting.Linked) (running : machine.isRunning = true)
    (fetched : setting.program.get? machine.pc = some (.call dest callee))
    (budget : ∀ limit ∈ setting.stepLimit, machine.steps < limit)
    (unresolved : callee.entry = none) :
    (∃ native ∈ Native.prelude, native.name = callee.name ∧
        setting.globals.get? callee.name = some (.native native)) ∧
      Keeps machine (machine.step setting) := by
  have found := linked machine.pc dest callee fetched
  rw [Callee.LinkedIn, unresolved] at found
  obtain ⟨native, installed, named, held⟩ := found
  rw [step_of_fetched running fetched budget, execute]
  exact ⟨⟨native, installed, named, held⟩, (call_of_native held).of_counted⟩

end Machine

def FaultKind.CalleeKnown (kind : FaultKind) : Prop := ∀ name, kind ≠ .unknownCallee name

theorem FaultKind.OfOperands.callee_known {kind : FaultKind} (raised : kind.OfOperands) :
    kind.CalleeKnown := by
  rintro name rfl
  exact raised

namespace Machine

variable {setting : Setting} {machine : Machine}

def Known (machine : Machine) : Prop :=
  ∀ fault, machine.status = .faulted fault → fault.kind.CalleeKnown

theorem known_of_running (running : machine.status = .running) : Known machine := by
  intro fault faulted
  rw [running] at faulted
  cases faulted

theorem callable_of_linked {globals : GlobalTable} {callee : Callee}
    (linked : callee.LinkedIn globals) :
    ∃ global, globals.get? callee.name = some global ∧ global.isCallable = true := by
  rw [Callee.LinkedIn] at linked
  split at linked
  · obtain ⟨params, found⟩ := linked
    exact ⟨_, found, rfl⟩
  · obtain ⟨native, -, -, found⟩ := linked
    exact ⟨_, found, rfl⟩

theorem prelude_of_linked {globals : GlobalTable} {callee : Callee} {native : Native}
    (linked : callee.LinkedIn globals)
    (held : globals.get? callee.name = some (.native native)) : native ∈ Native.prelude := by
  rw [Callee.LinkedIn] at linked
  split at linked
  · obtain ⟨params, found⟩ := linked
    cases held.symm.trans found
  · obtain ⟨other, installed, -, found⟩ := linked
    cases held.symm.trans found
    exact installed

theorem known_step (linked : setting.Linked) (known : Known machine) :
    Known (machine.step setting) := by
  cases running : machine.isRunning with
  | false =>
      rw [step_of_terminal setting running]
      exact known
  | true =>
      intro fault faulted
      obtain ⟨instruction, fetched, spent | stopped⟩ := step_of_faulted running faulted
      · obtain ⟨limit, -, -, same⟩ := spent
        rw [same] at faulted
        cases faulted
        nofun
      · obtain ⟨-, pending, kind, stops, same⟩ := stopped
        rw [same] at faulted
        cases faulted
        cases stops with
        | operands raised => exact raised.callee_known
        | native found raised =>
            have installed := prelude_of_linked (linked _ _ _ fetched) found
            exact (Native.operand_faults_prelude installed _ _ raised).callee_known
        | callee unknown =>
            obtain ⟨global, found, callable⟩ := callable_of_linked (linked _ _ _ fetched)
            rw [unknown global found] at callable
            cases callable
        | depth full => nofun

theorem known_run (linked : setting.Linked) (known : Known machine) (count : Nat) :
    Known (machine.run setting count) := by
  induction count with
  | zero => exact known
  | succ count induction =>
      rw [run_succ_eq_step]
      exact known_step linked induction

theorem entry_of_eq_none_iff {program : Program} {globals : GlobalTable} {name : String} :
    entryOf? program globals name = none ↔
      program.label? name = none ∧ globals.function? name = none := by
  rw [entryOf?]
  cases globals.function? name <;> simp

theorem known_start {program : Program} {globals : GlobalTable} {config : Config} {name : String}
    {entry : FunctionEntry} (found : findEntry program globals config.entry = .ok (name, entry)) :
    Known (start program globals config) := by
  rw [start, found]
  dsimp only
  split
  · exact known_of_running rfl
  · intro fault faulted
    cases faulted
    nofun

/-- A machine is created stopped over a callee exactly if the host names an entry that is neither a
label nor a function. -/
theorem start_unknown_callee_iff {program : Program} {globals : GlobalTable} {config : Config}
    {name : String} {pc : Nat} :
    (start program globals config).status = .faulted ⟨.unknownCallee name, pc⟩ ↔
      config.entry = some name ∧ program.label? name = none ∧ globals.function? name = none ∧
        pc = 0 := by
  have unknown : ∀ found, findEntry program globals config.entry = .ok found →
      (start program globals config).status ≠ .faulted ⟨.unknownCallee name, pc⟩ :=
    fun found succeeded faulted => known_start succeeded _ faulted name rfl
  cases requested : config.entry with
  | none =>
      have found : ∃ entry, findEntry program globals config.entry = .ok entry := by
        rw [requested]
        simp only [findEntry]
        split <;> exact ⟨_, rfl⟩
      obtain ⟨entry, succeeded⟩ := found
      simpa using unknown entry succeeded
  | some label =>
      cases known : entryOf? program globals label with
      | some entry =>
          have found : findEntry program globals config.entry = .ok (label, entry) := by
            simp only [requested, findEntry, known]
          have present : ¬ (program.label? label = none ∧ globals.function? label = none) := by
            rw [← entry_of_eq_none_iff, known]
            nofun
          refine iff_of_false (unknown _ found) ?_
          rintro ⟨same, missing, absent, -⟩
          cases same
          exact present ⟨missing, absent⟩
      | none =>
          obtain ⟨missing, absent⟩ := entry_of_eq_none_iff.1 known
          simp only [start, requested, findEntry, known, fail, blank, Status.faulted.injEq,
            Fault.mk.injEq, FaultKind.unknownCallee.injEq, Option.some.injEq]
          constructor
          · rintro ⟨rfl, rfl⟩
            exact ⟨rfl, missing, absent, rfl⟩
          · rintro ⟨rfl, -, -, rfl⟩
            exact ⟨rfl, rfl⟩

/-- After any number of steps of a linked program, the machine is stopped over a callee exactly if
it was when it was created. -/
theorem run_unknown_callee_iff (linked : setting.Linked) (count : Nat) {name : String} {pc : Nat} :
    (machine.run setting count).status = .faulted ⟨.unknownCallee name, pc⟩ ↔
      machine.status = .faulted ⟨.unknownCallee name, pc⟩ := by
  constructor
  · intro faulted
    by_contra other
    cases running : machine.isRunning with
    | false =>
        rw [run, run_until_of_terminal _ _ _ running] at faulted
        exact other faulted
    | true =>
        have known := known_of_running (status_of_running running)
        exact known_run linked known count _ faulted name rfl
  · intro faulted
    have stopped : machine.isRunning = false := by
      rw [isRunning, faulted]
      rfl
    rw [run, run_until_of_terminal _ _ _ stopped]
    exact faulted

end Machine

/-- In a session that was built from text, a call whose callee has an entry faults over the number of
its arguments or the depth of calls, or enters the callee there; a call whose callee has none calls a
native of the prelude, in the frame that it is in; and a machine is never stopped over a callee that
is not known, unless it was created with an unknown entry. -/
theorem Session.calls_reach_resolved_callees {name source : String} {options : SessionOptions}
    {session : Session} (built : ofSource name source options = .ok session) (config : Config) :
    (∀ count dest callee,
      let machine := (session.machine config).run (session.setting config) count
      let next := machine.step (session.setting config)
      machine.isRunning = true → session.program.get? machine.pc = some (.call dest callee) →
      (∀ limit ∈ config.stepLimit, machine.steps < limit) →
      (∀ entry, callee.entry = some entry →
        (∃ expected actual,
          next.status = .faulted ⟨.arity callee.name expected actual, machine.pc⟩) ∨
        next.status = .faulted ⟨.callDepthExceeded config.maxDepth, machine.pc⟩ ∨
        machine.Entered next callee.name entry) ∧
      (callee.entry = none →
        (∃ native ∈ Native.prelude, native.name = callee.name ∧
          session.globals.get? callee.name = some (.native native)) ∧
        machine.Keeps next)) ∧
    ∀ count unknown pc,
      ((session.machine config).run (session.setting config) count).status =
          .faulted ⟨.unknownCallee unknown, pc⟩ ↔
        config.entry = some unknown ∧ session.program.label? unknown = none ∧
          session.globals.function? unknown = none ∧ pc = 0 := by
  have linked := linked_of_source built config
  constructor
  · intro count dest callee machine next running fetched budget
    constructor
    · intro entry resolved
      exact Machine.step_of_resolved_call linked running fetched budget resolved
    · intro unresolved
      exact Machine.step_of_external_call linked running fetched budget unresolved
  · intro count unknown pc
    rw [Machine.run_unknown_callee_iff linked]
    exact Machine.start_unknown_callee_iff

theorem Session.calls_reach_shadowing_callees :
    ofSource "text" shadowingSource shadowingOptions = .ok shadowingSession ∧
      Machine.Entered ((shadowingSession.machine {}).run (shadowingSession.setting {}) 2)
        ((shadowingSession.machine {}).run (shadowingSession.setting {}) 3) "max" 6 ∧
      (∃ native ∈ Native.prelude, native.name = "abs" ∧
        shadowingSession.globals.get? "abs" = some (.native native)) ∧
      ∀ count unknown pc,
        ((shadowingSession.machine {}).run (shadowingSession.setting {}) count).status ≠
          .faulted ⟨.unknownCallee unknown, pc⟩ := by
  obtain ⟨calls, faults⟩ := calls_reach_resolved_callees shadowing_session_built {}
  have entering := (calls 2 (some "r") ⟨"max", true, some 6⟩ (by decide +kernel) (by decide +kernel)
    nofun).1 6 rfl
  have staying := (calls 6 (some "r") ⟨"abs", true, none⟩ (by decide +kernel) (by decide +kernel)
    nofun).2 rfl
  have running : ((shadowingSession.machine {}).run (shadowingSession.setting {}) 3).status =
      .running := by decide +kernel
  rw [← Machine.run_succ_eq_step, running] at entering
  refine ⟨shadowing_session_built, ?_, staying.1, ?_⟩
  · rcases entering with ⟨expected, actual, faulted⟩ | faulted | entered
    · cases faulted
    · cases faulted
    · exact entered
  · intro count unknown pc faulted
    cases ((faults count unknown pc).1 faulted).1

end ThreeAddress
