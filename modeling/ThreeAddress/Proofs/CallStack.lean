import ThreeAddress.Proofs.CallIsolation

/-!
The call stack of every state that a host can bring a machine to. The outermost frame belongs to no
call; every other frame belongs to a call in the program, after which it returns. There is never more
than the allowed number of frames, a machine halts only where its outermost frame returns, and no more
steps are counted than the limit allows. Nothing is asked of the program or of the global table.
-/

namespace ThreeAddress

/-- The frame belongs to a call in the program: it returns to the instruction after the call, its
destination is the one of the call, and its function is the callee, which the table knows. -/
def Frame.Called (setting : Setting) (frame : Frame) : Prop :=
  ∃ pc callee entry, frame.returnPc = some (pc + 1) ∧
    setting.program.get? pc = some (.call frame.dest callee) ∧
    callee.name = frame.function ∧ setting.globals.get? callee.name = some (.function entry)

/-- The frame and its callers, innermost first, are a stack of calls on top of an entry. -/
def Frame.Stacked (setting : Setting) (frame : Frame) : List Frame → Prop
  | [] => frame.returnPc = none ∧ frame.dest = none
  | caller :: callers => frame.Called setting ∧ caller.Stacked setting callers

namespace Frame.Stacked

variable {setting : Setting} {frame other : Frame} {callers : List Frame}

theorem of_same (stacked : frame.Stacked setting callers) (function : other.function = frame.function)
    (returnPc : other.returnPc = frame.returnPc) (dest : other.dest = frame.dest) :
    other.Stacked setting callers := by
  cases callers with
  | nil => exact ⟨returnPc.trans stacked.1, dest.trans stacked.2⟩
  | cons caller callers =>
      refine ⟨?_, stacked.2⟩
      have called := stacked.1
      rw [Called, ← function, ← returnPc, ← dest] at called
      exact called

/-- The frames outermost first: an entry, and then calls only. -/
theorem outermost_first (stacked : frame.Stacked setting callers) :
    ∃ outermost inner, callers.reverse ++ [frame] = outermost :: inner ∧
      outermost.returnPc = none ∧ outermost.dest = none ∧
      ∀ called ∈ inner, called.Called setting := by
  induction callers generalizing frame with
  | nil => exact ⟨frame, [], rfl, stacked.1, stacked.2, nofun⟩
  | cons caller callers induction =>
      obtain ⟨outermost, inner, order, returnPc, dest, called⟩ := induction stacked.2
      refine ⟨outermost, inner ++ [frame], ?_, returnPc, dest, ?_⟩
      · rw [List.reverse_cons, order, List.cons_append]
      · intro other member
        rcases List.mem_append.1 member with below | top
        · exact called other below
        · rw [List.mem_singleton.1 top]
          exact stacked.1

end Frame.Stacked

namespace Machine

variable {setting : Setting} {origin machine other : Machine}

/-- The states that a host can bring a machine to by stepping, running and aborting it, in any order.
A run may stop after any number of steps, so it does not matter what a host's test for stopping
remembers from one state to the next. -/
inductive Reaches (setting : Setting) (origin : Machine) : Machine → Prop where
  | origin : Reaches setting origin origin
  | step {machine : Machine} (before : Reaches setting origin machine) :
      Reaches setting origin (machine.step setting)
  | run {machine : Machine} (before : Reaches setting origin machine) (fuel : Nat) :
      Reaches setting origin (machine.run setting fuel)
  | runUntil {machine : Machine} (before : Reaches setting origin machine)
      (stop : Machine → Bool) (fuel : Nat) :
      Reaches setting origin (machine.runUntil setting stop fuel)
  | abort {machine : Machine} (before : Reaches setting origin machine) (kind : FaultKind) :
      Reaches setting origin (machine.abort kind)

section Invariant

variable {holds : Machine → Prop}
  (stepped : ∀ machine, machine.isRunning = true → holds machine → holds (machine.step setting))

include stepped

theorem run_until_invariant (stop : Machine → Bool) (fuel : Nat) {machine : Machine}
    (begun : holds machine) : holds (machine.runUntil setting stop fuel) := by
  induction fuel generalizing machine with
  | zero => exact begun
  | succ fuel induction =>
      rw [runUntil]
      split
      · rename_i going
        exact induction (stepped machine (Bool.and_eq_true_iff.1 going).1 begun)
      · exact begun

/-- What holds at first, and is kept by every step of a running machine and by every abort of one,
holds of every state that the host can reach. -/
theorem Reaches.invariant (reached : Reaches setting origin machine) (begun : holds origin)
    (aborted : ∀ machine kind, machine.isRunning = true → holds machine →
      holds (machine.fail kind)) : holds machine := by
  induction reached with
  | origin => exact begun
  | @step machine before induction =>
      cases running : machine.isRunning with
      | true => exact stepped machine running induction
      | false =>
          rw [step_of_terminal setting running]
          exact induction
  | run before fuel induction => exact run_until_invariant stepped _ fuel induction
  | runUntil before stop fuel induction => exact run_until_invariant stepped stop fuel induction
  | @abort machine before kind induction =>
      rw [Machine.abort]
      split
      · rename_i running
        exact aborted machine kind running induction
      · exact induction

end Invariant

theorem evaluate_of_frame (frame : other.frame = machine.frame) (operand : Operand) :
    other.evaluate setting operand = machine.evaluate setting operand := by
  cases operand with
  | «variable» name => rw [evaluate, evaluate, binding?, binding?, frame]
  | global name => rfl
  | literal value => rfl

/-- Whether a machine returns, and with what, shows in its program counter and executing frame. -/
theorem Returns.of_same {value : Option Value} (returns : Returns setting machine value)
    (pc : other.pc = machine.pc) (frame : other.frame = machine.frame) :
    Returns setting other value := by
  cases returns with
  | offEnd outside => exact .offEnd (pc ▸ outside)
  | bare fetched => exact .bare (pc ▸ fetched)
  | carrying fetched evaluated =>
      exact .carrying (pc ▸ fetched) ((evaluate_of_frame frame _).trans evaluated)

theorem unhalted_of_running (running : machine.status = .running) (value : Option Value) :
    machine.status ≠ .halted value := by
  rw [running]
  nofun

/-- The discipline of calls: the frames are a stack of calls within the allowed depth, the machine
has halted only on a return of the outermost frame, and the step limit is kept. -/
structure Disciplined (setting : Setting) (machine : Machine) : Prop where
  stacked : machine.frame.Stacked setting machine.callers
  depth : machine.depth ≤ max 1 setting.maxDepth
  halted : ∀ value, machine.status = .halted value →
    machine.callers = [] ∧ Returns setting machine value
  steps : ∀ limit ∈ setting.stepLimit, machine.steps ≤ limit

namespace Disciplined

theorem of_keeps (disciplined : Disciplined setting machine) (kept : Keeps machine other)
    (unhalted : ∀ value, other.status ≠ .halted value)
    (steps : ∀ limit ∈ setting.stepLimit, other.steps ≤ limit) : Disciplined setting other where
  stacked := by
    rw [kept.callers]
    exact disciplined.stacked.of_same kept.function kept.returnPc kept.dest
  depth := by
    have same : other.depth = machine.depth := by rw [Machine.depth, kept.callers, Machine.depth]
    rw [same]
    exact disciplined.depth
  halted value status := absurd status (unhalted value)
  steps := steps

theorem fail (disciplined : Disciplined setting machine) (kind : FaultKind) :
    Disciplined setting (machine.fail kind) :=
  disciplined.of_keeps (keeps_fail machine kind) nofun disciplined.steps

theorem counted (disciplined : Disciplined setting machine) (running : machine.status = .running)
    (budget : ∀ limit ∈ setting.stepLimit, machine.steps < limit) :
    Disciplined setting machine.counted :=
  disciplined.of_keeps ⟨rfl, rfl, rfl, rfl⟩ (unhalted_of_running (by exact running)) budget

theorem enter {dest : Option String} {callee : Callee} {entry : FunctionEntry}
    (disciplined : Disciplined setting machine) (running : machine.status = .running)
    (enters : Enters setting machine dest callee entry)
    (budget : ∀ limit ∈ setting.stepLimit, machine.steps < limit) :
    Disciplined setting
      ({ machine.counted with pending := [] }.enter callee.name dest entry machine.pending) where
  stacked :=
    ⟨⟨machine.pc, callee, entry, rfl, enters.fetched, rfl, enters.found⟩, disciplined.stacked⟩
  depth := Nat.le_trans enters.room (Nat.le_max_right 1 _)
  halted value status := absurd status (unhalted_of_running (by exact running) value)
  steps := budget

theorem returnWith {value : Option Value} (disciplined : Disciplined setting machine)
    (running : machine.status = .running) (returns : Returns setting machine value) :
    Disciplined setting (machine.returnWith value) := by
  have stacked := disciplined.stacked
  have depth := disciplined.depth
  cases callers : machine.callers with
  | nil =>
      rw [return_with_of_outermost callers]
      refine ⟨stacked, depth, ?_, disciplined.steps⟩
      rintro other ⟨⟩
      exact ⟨callers, returns.of_same rfl rfl⟩
  | cons caller below =>
      rw [callers] at stacked
      rw [Machine.depth, callers, List.length_cons] at depth
      rw [return_with_of_callers callers]
      refine ⟨?_, Nat.le_of_succ_le depth, ?_, disciplined.steps⟩
      · exact stacked.2.of_same (caller.receive_function _ _) (caller.receive_return_pc _ _)
          (caller.receive_dest _ _)
      · intro other status
        exact absurd status (unhalted_of_running running other)

theorem step (disciplined : Disciplined setting machine) (running : machine.isRunning = true) :
    Disciplined setting (machine.step setting) := by
  have status := status_of_running running
  have outcome := stepped setting running
  generalize machine.step setting = after at outcome
  cases outcome with
  | ended outside => exact disciplined.returnWith status (.offEnd outside)
  | exhausted fetched limited spent => exact disciplined.fail _
  | stayed fetched budget stays =>
      have kept := stays.keeps.of_counted
      cases stays with
      | moved environment pending reached =>
          exact disciplined.of_keeps kept (unhalted_of_running (by exact status)) budget
      | stopped pending stops => exact disciplined.of_keeps kept nofun budget
  | entered budget enters => exact disciplined.enter status enters budget
  | returned budget returns =>
      exact (disciplined.counted status budget).returnWith status (returns.of_same rfl rfl)

theorem start (program : Program) (globals : GlobalTable) (config : Config) :
    Disciplined (.ofConfig program globals config) (start program globals config) := by
  have entry : ∀ machine : Machine, machine.callers = [] →
      machine.frame.returnPc = none ∧ machine.frame.dest = none →
      (∀ value, machine.status ≠ .halted value) → machine.steps = 0 →
      Disciplined (.ofConfig program globals config) machine := by
    intro machine callers bottom unhalted steps
    refine ⟨?_, ?_, fun value status => absurd status (unhalted value), ?_⟩
    · rw [callers]
      exact bottom
    · rw [Machine.depth, callers]
      exact Nat.le_max_left 1 _
    · rw [steps]
      intro limit limited
      exact Nat.zero_le limit
  rw [Machine.start]
  split
  · refine entry _ rfl ⟨rfl, rfl⟩ ?_ rfl
    rintro value ⟨⟩
  · dsimp only
    split
    · refine entry _ rfl ⟨rfl, rfl⟩ ?_ rfl
      rintro value ⟨⟩
    · refine entry _ rfl ⟨rfl, rfl⟩ ?_ rfl
      rintro value ⟨⟩

theorem of_reaches {program : Program} {globals : GlobalTable} {config : Config}
    (reached : Reaches (.ofConfig program globals config) (Machine.start program globals config)
      machine) : Disciplined (.ofConfig program globals config) machine :=
  reached.invariant (fun _ running disciplined => disciplined.step running)
    (start program globals config) fun _ kind _ disciplined => disciplined.fail kind

end Disciplined

/-- In every state that a host can reach, whatever the program, the table and the configuration:
there is at least one frame and no more than allowed; the outermost frame has nowhere to return to
and no destination, and every other frame belongs to a call in the program; a machine that has
halted has one frame, on whose return, explicit or at the end of the program, it halted; and the
step limit is kept. -/
theorem call_stack_of_reached {program : Program} {globals : GlobalTable} {config : Config}
    (reached : Reaches (.ofConfig program globals config) (start program globals config) machine) :
    (1 ≤ machine.depth ∧ machine.depth ≤ max 1 config.maxDepth) ∧
    (∃ outermost inner, machine.frames = outermost :: inner ∧
      outermost.returnPc = none ∧ outermost.dest = none ∧
      ∀ frame ∈ inner, frame.Called (.ofConfig program globals config)) ∧
    (∀ value, machine.status = .halted value →
      machine.depth = 1 ∧ Returns (.ofConfig program globals config) machine value) ∧
    ∀ limit ∈ config.stepLimit, machine.steps ≤ limit := by
  have disciplined := Disciplined.of_reaches reached
  refine ⟨⟨Nat.le_add_left 1 _, disciplined.depth⟩, disciplined.stacked.outermost_first, ?_,
    disciplined.steps⟩
  intro value halted
  obtain ⟨callers, returns⟩ := disciplined.halted value halted
  exact ⟨by rw [depth, callers]; rfl, returns⟩

def nestedLimits : Config := { stepLimit := some 5, maxDepth := 3 }

theorem call_stack_of_nested_calls :
    let setting := Setting.ofConfig nestedCalls (.ofProgram nestedCalls) nestedLimits
    let deepest := (start nestedCalls (.ofProgram nestedCalls) nestedLimits).run setting 2
    let final := deepest.run setting 9
    (deepest.depth ≤ 3 ∧ deepest.depth = 3) ∧
      (∃ outermost inner, deepest.frames = outermost :: inner ∧ outermost.returnPc = none ∧
        outermost.dest = none ∧ ∀ frame ∈ inner, frame.Called setting) ∧
      final.status = .halted (some (.integer 7)) ∧ final.depth = 1 ∧
      Returns setting final (some (.integer 7)) ∧ final.steps ≤ 5 := by
  intro setting deepest final
  have reached : Reaches setting (start nestedCalls (.ofProgram nestedCalls) nestedLimits) deepest :=
    .run .origin 2
  obtain ⟨depth, frames, -, -⟩ := call_stack_of_reached reached
  obtain ⟨-, -, halted, steps⟩ := call_stack_of_reached (reached.run 9)
  have status : final.status = .halted (some (.integer 7)) := by decide +kernel
  obtain ⟨single, returns⟩ := halted _ status
  exact ⟨⟨depth.2, by decide +kernel⟩, frames, status, single, returns, steps 5 rfl⟩

end Machine

end ThreeAddress
