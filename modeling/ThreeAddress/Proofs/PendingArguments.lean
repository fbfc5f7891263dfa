import ThreeAddress.Proofs.StepBudget

/-!
The pending arguments along a run. They belong to the machine and to none of its frames: whichever
frame executes an `arg`, its value waits for the next call, and that call takes all that are waiting,
whatever comes of it. A call is therefore given exactly the values passed since the call before it,
and only their number decides whether it faults over its arity.
-/

namespace ThreeAddress

def Instruction.isCall : Instruction → Bool
  | .call _ _ => true
  | _ => false

/-- The setting in which a native of this name and arity has another body. -/
def Setting.withBody (setting : Setting) (name : String) (native : Native)
    (body : List Value → Except FaultKind Value) : Setting :=
  { setting with
    globals := setting.globals.define name (.native { native with body := body }) }

theorem Setting.get_with_body (setting : Setting) (name : String) (native : Native)
    (body : List Value → Except FaultKind Value) :
    (setting.withBody name native body).globals.get? name =
      some (.native { native with body := body }) :=
  NameMap.find_insert_self _ _ _

namespace Machine

variable {setting : Setting} {machine origin : Machine} {instruction : Instruction}

def passes? (setting : Setting) (machine : Machine) : Instruction → Option Value
  | .argument operand => (machine.evaluate setting operand).toOption
  | _ => none

def passed? (setting : Setting) (machine : Machine) : Option Value :=
  (machine.fetched? setting).bind (machine.passes? setting)

def calls (setting : Setting) (machine : Machine) : Bool :=
  (machine.fetched? setting).any Instruction.isCall

theorem pending_return_with (machine : Machine) (value : Option Value) :
    (machine.returnWith value).pending = machine.pending := by
  cases callers : machine.callers with
  | nil => rw [return_with_of_outermost callers]
  | cons caller below => rw [return_with_of_callers callers]

theorem pending_with_value {operand : Operand} {continuation : Value → Machine}
    (kept : ∀ value, (continuation value).pending = machine.pending) :
    (machine.withValue setting operand continuation).pending = machine.pending := by
  rcases with_value_cases setting machine operand continuation with
    ⟨value, -, same⟩ | ⟨kind, -, same⟩
  · rw [same, kept]
  · rw [same]
    rfl

/-- A call takes all pending arguments, whatever comes of it. -/
theorem pending_call (setting : Setting) (machine : Machine) (dest : Option String)
    (callee : Callee) : (machine.call setting dest callee).pending = [] := by
  rw [call]
  split
  · split
    · rfl
    · split
      · rfl
      · rfl
  · split
    · cases dest <;> rfl
    · rfl
  · rfl
  · rfl

theorem pending_execute (setting : Setting) (machine : Machine) (instruction : Instruction) :
    (machine.execute setting instruction).pending =
      if instruction.isCall then []
      else machine.pending ++ (machine.passes? setting instruction).toList := by
  cases instruction with
  | argument operand =>
      rw [execute, withValue, passes?]
      cases machine.evaluate setting operand with
      | ok value => rfl
      | error kind => exact (List.append_nil _).symm
  | call dest callee => exact pending_call setting machine dest callee
  | ret value =>
      refine Eq.trans ?_ (List.append_nil _).symm
      cases value with
      | none => exact pending_return_with machine none
      | some operand => exact pending_with_value fun value => pending_return_with machine _
  | assign dest value =>
      refine Eq.trans ?_ (List.append_nil _).symm
      exact pending_with_value fun value => rfl
  | binary dest left operator right =>
      refine Eq.trans ?_ (List.append_nil _).symm
      apply pending_with_value
      intro first
      apply pending_with_value
      intro second
      split <;> rfl
  | branch polarity condition target =>
      refine Eq.trans ?_ (List.append_nil _).symm
      apply pending_with_value
      intro value
      split
      · split <;> rfl
      · rfl
  | goto | labelMarker => exact (List.append_nil _).symm

theorem pending_step (setting : Setting) (machine : Machine) :
    (machine.step setting).pending =
      if machine.calls setting then []
      else machine.pending ++ (machine.passed? setting).toList := by
  rw [calls, passed?]
  cases fetched : machine.fetched? setting with
  | some instruction =>
      rw [step_of_executed fetched, pending_execute]
      rfl
  | none =>
      refine Eq.trans ?_ (List.append_nil _).symm
      rcases step_of_unfetched fetched with same | same | ⟨kind, same⟩
      · rw [same]
      · rw [same, pending_return_with]
      · rw [same]
        rfl

/-- From step `first` until step `count` the run executes no call, and `first` is the start of the
run or the step after a call. -/
structure SinceCall (setting : Setting) (origin : Machine) (first count : Nat) : Prop where
  order : first ≤ count
  begins : first = 0 ∨
    ∃ previous, first = previous + 1 ∧ (origin.run setting previous).calls setting = true
  callFree : ∀ index, first ≤ index → index < count →
    (origin.run setting index).calls setting = false

def passedBetween (setting : Setting) (origin : Machine) (first count : Nat) : List Value :=
  (List.range' first (count - first)).filterMap fun index =>
    (origin.run setting index).passed? setting

theorem passed_between_self (setting : Setting) (origin : Machine) (count : Nat) :
    passedBetween setting origin count count = [] := by
  rw [passedBetween, Nat.sub_self]
  rfl

theorem passed_between_succ (setting : Setting) (origin : Machine) {first count : Nat}
    (order : first ≤ count) :
    passedBetween setting origin first (count + 1) =
      passedBetween setting origin first count ++
        ((origin.run setting count).passed? setting).toList := by
  have reached : first + (count - first) = count := Nat.add_sub_cancel' order
  rw [passedBetween, Nat.succ_sub order, List.range'_concat, Nat.one_mul, reached,
    List.filterMap_append, passedBetween]
  rfl

/-- At every point of a run the pending arguments are the values passed since the last call. -/
theorem pending_run (setting : Setting) (fresh : origin.pending = []) (count : Nat) :
    ∃ first, SinceCall setting origin first count ∧
      (origin.run setting count).pending = passedBetween setting origin first count := by
  induction count with
  | zero => exact ⟨0, ⟨Nat.le_refl 0, .inl rfl, nofun⟩, fresh⟩
  | succ count induction =>
      obtain ⟨first, since, pending⟩ := induction
      have outcome := pending_step setting (origin.run setting count)
      rw [← run_succ_eq_step] at outcome
      -- A call begins a new stretch of the run, any other step prolongs the one it belongs to.
      cases calling : (origin.run setting count).calls setting with
      | true =>
          rw [calling, if_pos rfl] at outcome
          refine ⟨count + 1, ⟨Nat.le_refl _, .inr ⟨count, rfl, calling⟩, ?_⟩, ?_⟩
          · intro index lower upper
            omega
          · rw [outcome, passed_between_self]
      | false =>
          rw [calling, if_neg Bool.false_ne_true, pending, ← passed_between_succ _ _ since.order]
            at outcome
          refine ⟨first, ⟨Nat.le_succ_of_le since.order, since.begins, ?_⟩, outcome⟩
          intro index lower upper
          rcases Nat.lt_succ_iff_lt_or_eq.1 upper with earlier | rfl
          · exact since.callFree index lower earlier
          · exact calling

structure FunctionCall (setting : Setting) (before after : Machine) (dest : Option String)
    (callee : Callee) (entry : FunctionEntry) (arguments : List Value) : Prop where
  arity : after.status =
      .faulted ⟨.arity callee.name entry.params.length arguments.length, before.pc⟩ ↔
    arguments.length ≠ entry.params.length
  depth : arguments.length = entry.params.length → ∀ fault, after.status = .faulted fault ↔
    setting.maxDepth ≤ before.depth ∧ fault = ⟨.callDepthExceeded setting.maxDepth, before.pc⟩
  entered : arguments.length = entry.params.length → before.depth < setting.maxDepth →
    after.frame = ⟨callee.name, some (before.pc + 1), Frame.bind entry.params arguments, dest⟩

/-- What comes of calling a native with the given arguments. Their number is checked before the body
runs: the call is refused over it, whatever body the native has, exactly if it is wrong. -/
structure NativeCall (setting : Setting) (before after : Machine) (dest : Option String)
    (callee : Callee) (native : Native) (arguments : List Value) : Prop where
  arity : (∀ body, (before.step (setting.withBody callee.name native body)).status =
      .faulted ⟨.arity native.name native.arity arguments.length, before.pc⟩) ↔
    arguments.length ≠ native.arity
  refused : arguments.length ≠ native.arity →
    after.status = .faulted ⟨.arity native.name native.arity arguments.length, before.pc⟩
  body : arguments.length = native.arity → ∀ fault, after.status = .faulted fault ↔
    native.body arguments = .error fault.kind ∧ fault.pc = before.pc
  returned : ∀ value, native.call arguments = .ok value →
    after.frame = before.frame.receive dest (some value)

section Call

variable {dest : Option String} {callee : Callee} {entry : FunctionEntry} {native : Native}

theorem function_call (running : machine.status = .running)
    (found : setting.globals.get? callee.name = some (.function entry)) :
    FunctionCall setting machine (machine.call setting dest callee) dest callee entry
      machine.pending := by
  by_cases matched : machine.pending.length = entry.params.length
  · rcases Nat.lt_or_ge machine.depth setting.maxDepth with room | full
    · have unfaulted : ∀ fault, machine.status ≠ .faulted fault := by
        rw [running]
        nofun
      rw [call_of_room found matched room]
      refine ⟨⟨fun faulted => absurd faulted (unfaulted _), fun wrong => absurd matched wrong⟩, ?_,
        fun _ _ => rfl⟩
      intro _ fault
      exact ⟨fun faulted => absurd faulted (unfaulted _),
        fun deep => absurd deep.1 (Nat.not_le.2 room)⟩
    · rw [call_of_full found matched full]
      refine ⟨⟨nofun, fun wrong => absurd matched wrong⟩, ?_,
        fun _ room => absurd full (Nat.not_le.2 room)⟩
      intro _ fault
      constructor
      · rintro ⟨⟩
        exact ⟨full, rfl⟩
      · rintro ⟨-, rfl⟩
        rfl
  · rw [call_of_wrong_count found matched]
    exact ⟨⟨fun _ => matched, fun _ => rfl⟩, fun right => absurd right matched,
      fun right => absurd right matched⟩

theorem faulted_native_call_iff (running : machine.status = .running)
    (found : setting.globals.get? callee.name = some (.native native)) {fault : Fault} :
    (machine.call setting dest callee).status = .faulted fault ↔
      native.call machine.pending = .error fault.kind ∧ fault.pc = machine.pc := by
  simp only [call, found]
  cases called : native.call machine.pending with
  | ok value =>
      have status : (({ machine with pending := [] }.assignTo dest value).advance).status =
          .running := by
        cases dest <;> exact running
      constructor
      · intro faulted
        cases status.symm.trans faulted
      · rintro ⟨⟨⟩, -⟩
  | error kind =>
      constructor
      · rintro ⟨⟩
        exact ⟨rfl, rfl⟩
      · rintro ⟨same, pc⟩
        cases fault
        cases same
        cases pc
        rfl

theorem native_call (executed : machine.fetched? setting = some (.call dest callee))
    (found : setting.globals.get? callee.name = some (.native native)) :
    NativeCall setting machine (machine.step setting) dest callee native machine.pending := by
  have running : machine.counted.status = .running := status_of_running (fetched_eq_some executed).1
  have taken : machine.step setting = machine.counted.call setting dest callee :=
    step_of_executed executed
  have replaced : ∀ body, machine.step (setting.withBody callee.name native body) =
      machine.counted.call (setting.withBody callee.name native body) dest callee :=
    fun body => @step_of_executed (setting.withBody callee.name native body) machine _ executed
  refine ⟨⟨?_, ?_⟩, ?_, ?_, ?_⟩
  · intro refused matched
    -- A body that returns does not refuse a right number of arguments.
    have faulted := refused fun _ => .ok (.integer 0)
    rw [replaced, faulted_native_call_iff running (setting.get_with_body _ _ _)] at faulted
    rcases Native.call_eq_error_iff.1 faulted.1 with ⟨-, ⟨⟩⟩ | ⟨wrong, -⟩
    exact wrong matched
  · intro wrong body
    rw [replaced, faulted_native_call_iff running (setting.get_with_body _ _ _)]
    exact ⟨Native.call_of_wrong_count wrong, rfl⟩
  · intro wrong
    rw [taken, faulted_native_call_iff running found]
    exact ⟨Native.call_of_wrong_count wrong, rfl⟩
  · intro matched fault
    rw [taken, faulted_native_call_iff running found, ← Native.call_of_right_count matched]
    rfl
  · intro value called
    have returned : native.call machine.counted.pending = .ok value := called
    rw [taken]
    simp only [call, found, returned]
    cases dest <;> rfl

end Call

theorem start_pending (program : Program) (globals : GlobalTable) (config : Config) :
    (start program globals config).pending = [] := by
  rw [start]
  split
  · rfl
  · dsimp only
    split
    · rfl
    · rfl

/-- Whenever a run executes a call, the arguments that the call takes are the values passed by the
steps since the call before it, or since the start, in order and whichever frames passed them; and
afterwards none are pending. If the callee is a function or a native, the call faults over its arity
exactly if their number is not the declared one, before anything else is looked at; with the right
number, a function faults only over the depth of calls, exactly if that is reached, and a native
only as its body does. -/
theorem call_takes_arguments_since_last_call (program : Program) (globals : GlobalTable)
    (config : Config) {count : Nat} {dest : Option String} {callee : Callee} :
    let setting := Setting.ofConfig program globals config
    let origin := start program globals config
    let before := origin.run setting count
    let after := origin.run setting (count + 1)
    before.fetched? setting = some (.call dest callee) →
    ∃ first, SinceCall setting origin first count ∧
      let arguments := passedBetween setting origin first count
      before.pending = arguments ∧ after.pending = [] ∧
      (∀ entry, globals.get? callee.name = some (.function entry) →
        FunctionCall setting before after dest callee entry arguments) ∧
      ∀ native, globals.get? callee.name = some (.native native) →
        NativeCall setting before after dest callee native arguments := by
  intro setting origin before after executed
  obtain ⟨first, since, pending⟩ := pending_run setting (start_pending program globals config) count
  have running := status_of_running (fetched_eq_some executed).1
  have taken : after = before.counted.call setting dest callee := by
    rw [← execute, ← step_of_executed executed]
    exact run_succ_eq_step setting count origin
  refine ⟨first, since, pending, ?_, ?_, ?_⟩
  · rw [taken, pending_call]
  · intro entry found
    have outcome : FunctionCall setting before.counted (before.counted.call setting dest callee)
        dest callee entry before.pending := function_call running found
    rw [taken, ← pending]
    exact ⟨outcome.arity, outcome.depth, outcome.entered⟩
  · intro native found
    have stepped : after = before.step setting := run_succ_eq_step setting count origin
    rw [stepped, ← pending]
    exact native_call executed found

def passingOn : Program :=
  .ofParts
    [.argument (.literal (.integer 1)), .call none ⟨"f", true, some 4⟩,
      .call (some "r") ⟨"max", true, none⟩, .ret (some (.variable "r")),
      .argument (.variable "x"), .argument (.literal (.integer 5)), .ret none]
    [("main", 0), ("f", 4)]

def passingOnGlobals : GlobalTable :=
  (GlobalTable.ofProgram passingOn).installPrelude.defineFunction "f" 4 ["x"]

/-- The caller's second call takes the arguments that the function has passed. -/
theorem call_takes_arguments_of_other_frame :
    let setting := Setting.ofConfig passingOn passingOnGlobals {}
    let origin := start passingOn passingOnGlobals {}
    let before := origin.run setting 5
    let after := origin.run setting 6
    let arguments : List Value := [.integer 1, .integer 5]
    before.fetched? setting = some (.call (some "r") ⟨"max", true, none⟩) ∧
      (∃ first, SinceCall setting origin first 5 ∧
        passedBetween setting origin first 5 = arguments) ∧
      before.pending = arguments ∧ after.pending = [] ∧
      NativeCall setting before after (some "r") ⟨"max", true, none⟩ .max arguments := by
  intro setting origin before after arguments
  have executed : before.fetched? setting = some (.call (some "r") ⟨"max", true, none⟩) := by
    decide +kernel
  have waiting : before.pending = arguments := by decide +kernel
  obtain ⟨first, since, pending, emptied, -, native⟩ :=
    call_takes_arguments_since_last_call passingOn passingOnGlobals {} executed
  have passed := pending.symm.trans waiting
  have outcome := native .max rfl
  rw [passed] at outcome
  exact ⟨executed, ⟨first, since, passed⟩, waiting, emptied, outcome⟩

end Machine

end ThreeAddress
