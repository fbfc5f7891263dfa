import ThreeAddress.Proofs.Step

/-!
Calls are isolated. From the step that enters a function until the matching return, however many
calls are nested in between, the frames of the callers stay as they were; the return resumes after
the call and changes at most the destination.
-/

namespace ThreeAddress

namespace Machine

variable {setting : Setting} {machine caller : Machine} {dest : Option String}

/-- The activation that the call at `caller` has started is live in `machine`, with the callers
below it untouched. The frames in `inner` belong to calls nested in it. -/
def Above (caller machine : Machine) (dest : Option String) : Prop :=
  ∃ inner base, machine.frame :: machine.callers = inner ++ base :: caller.frame :: caller.callers ∧
    base.returnPc = some (caller.pc + 1) ∧ base.dest = dest

/-- The call at `caller` has returned with `value`. -/
structure Resumed (caller machine : Machine) (dest : Option String) (value : Option Value) :
    Prop where
  pc : machine.pc = caller.pc + 1
  callers : machine.callers = caller.callers
  frame : machine.frame = caller.frame.receive dest value

theorem frames_eq_reverse (machine : Machine) :
    machine.frames = (machine.frame :: machine.callers).reverse := by
  rw [List.reverse_cons, frames]

theorem Above.depth_lt (above : Above caller machine dest) : caller.depth < machine.depth := by
  obtain ⟨inner, base, stack, -, -⟩ := above
  have lengths := congrArg List.length stack
  simp only [List.length_cons, List.length_append] at lengths
  unfold depth
  omega

theorem Above.take_frames (above : Above caller machine dest) :
    machine.frames.take caller.depth = caller.frames := by
  obtain ⟨inner, base, stack, -, -⟩ := above
  have below : machine.frames = caller.frames ++ base :: inner.reverse := by
    rw [frames_eq_reverse, stack, frames_eq_reverse caller]
    simp only [List.reverse_append, List.reverse_cons, List.append_assoc, List.cons_append,
      List.nil_append]
  rw [below, ← frames_length, List.take_left]

theorem Resumed.depth_eq {value : Option Value} (resumed : Resumed caller machine dest value) :
    machine.depth = caller.depth := by
  rw [depth, resumed.callers, depth]

theorem Resumed.frames_eq {value : Option Value} (resumed : Resumed caller machine dest value) :
    machine.frames = caller.callers.reverse ++ [caller.frame.receive dest value] := by
  rw [frames, resumed.callers, resumed.frame]

theorem above_enter (name : String) (entry : FunctionEntry) (arguments : List Value) (steps : Nat) :
    Above caller ({ caller with steps := steps, pending := [] }.enter name dest entry arguments)
      dest :=
  ⟨[], _, rfl, rfl, rfl⟩

theorem Above.of_keeps {after : Machine} (above : Above caller machine dest)
    (kept : Keeps machine after) : Above caller after dest := by
  obtain ⟨inner, base, stack, returnPc, target⟩ := above
  cases inner with
  | nil =>
      obtain ⟨sameBase, sameBelow⟩ := List.cons.inj stack
      refine ⟨[], after.frame, ?_, ?_, ?_⟩
      · rw [kept.callers, sameBelow]
        rfl
      · rw [kept.returnPc, sameBase]
        exact returnPc
      · rw [kept.dest, sameBase]
        exact target
  | cons top inner =>
      have sameBelow := (List.cons.inj stack).2
      refine ⟨after.frame :: inner, base, ?_, returnPc, target⟩
      rw [kept.callers, sameBelow]
      rfl

theorem Above.of_enter (above : Above caller machine dest) (name : String)
    (inner : Option String) (entry : FunctionEntry) (arguments : List Value) :
    Above caller ({ machine.counted with pending := [] }.enter name inner entry arguments) dest := by
  obtain ⟨nested, base, stack, returnPc, target⟩ := above
  refine ⟨⟨name, some (machine.pc + 1), Frame.bind entry.params arguments, inner⟩ :: nested, base,
    ?_, returnPc, target⟩
  rw [List.cons_append, ← stack]
  rfl

/-- A return either ends a call nested in the activation or the activation itself. -/
theorem Above.of_return (above : Above caller machine dest) (value : Option Value) (steps : Nat) :
    Above caller ({ machine with steps := steps }.returnWith value) dest ∨
      machine.depth = caller.depth + 1 ∧
        Resumed caller ({ machine with steps := steps }.returnWith value) dest value := by
  obtain ⟨inner, base, stack, returnPc, target⟩ := above
  cases inner with
  | nil =>
      right
      obtain ⟨sameBase, sameBelow⟩ := List.cons.inj stack
      have callers : { machine with steps := steps }.callers = caller.frame :: caller.callers :=
        sameBelow
      rw [return_with_of_callers callers]
      refine ⟨?_, ?_, rfl, ?_⟩
      · rw [depth, sameBelow, List.length_cons, depth]
      · rw [sameBase, returnPc]
        rfl
      · rw [sameBase, target]
  | cons top inner =>
      left
      have sameBelow := (List.cons.inj stack).2
      cases inner with
      | nil =>
          have callers : { machine with steps := steps }.callers =
              base :: caller.frame :: caller.callers := sameBelow
          rw [return_with_of_callers callers]
          refine ⟨[], _, rfl, ?_, ?_⟩
          · rw [Frame.receive_return_pc]
            exact returnPc
          · rw [Frame.receive_dest]
            exact target
      | cons next inner =>
          have callers : { machine with steps := steps }.callers =
              next :: (inner ++ base :: caller.frame :: caller.callers) := sameBelow
          rw [return_with_of_callers callers]
          exact ⟨_ :: inner, base, rfl, returnPc, target⟩

theorem Above.step (setting : Setting) (above : Above caller machine dest) :
    Above caller (machine.step setting) dest ∨
      ∃ value, Returns setting machine value ∧ machine.depth = caller.depth + 1 ∧
        Resumed caller (machine.step setting) dest value := by
  cases running : machine.isRunning with
  | false =>
      left
      rw [step_of_terminal setting running]
      exact above
  | true =>
      rcases step_cases setting running with kept | ⟨inner, callee, entry, -, entered⟩ |
        ⟨value, steps, returns, returned⟩
      · exact .inl (above.of_keeps kept)
      · left
        rw [entered]
        exact above.of_enter callee.name inner entry machine.pending
      · rw [returned]
        rcases above.of_return value steps with still | ⟨atBase, resumed⟩
        · exact .inl still
        · exact .inr ⟨value, returns, atBase, resumed⟩

theorem run_succ_eq_step (setting : Setting) (count : Nat) (machine : Machine) :
    machine.run setting (count + 1) = (machine.run setting count).step setting := by
  rw [run_add, run_succ]
  rfl

theorem above_of_pushed {callee : Callee} (running : machine.isRunning = true)
    (fetched : setting.program.get? machine.pc = some (.call dest callee))
    (pushed : (machine.step setting).depth = machine.depth + 1) :
    Above machine (machine.step setting) dest := by
  rcases step_cases setting running with kept | ⟨target, named, entry, enters, entered⟩ |
    ⟨value, steps, returns, -⟩
  · rw [depth, kept.callers, depth] at pushed
    omega
  · have same := enters.fetched
    rw [fetched] at same
    cases same
    rw [entered]
    exact above_enter callee.name entry machine.pending (machine.steps + 1)
  · cases returns with
    | offEnd outside =>
        rw [fetched] at outside
        cases outside
    | bare other =>
        rw [fetched] at other
        cases other
    | carrying other evaluated =>
        rw [fetched] at other
        cases other

/-- The activation stays live as long as the depth of the caller is not reached again. -/
theorem Above.run {callee : Callee} (running : machine.isRunning = true)
    (fetched : setting.program.get? machine.pc = some (.call dest callee))
    (pushed : (machine.step setting).depth = machine.depth + 1) (count : Nat)
    (inside : ∀ earlier, 0 < earlier → earlier ≤ count + 1 →
      (machine.run setting earlier).depth ≠ machine.depth) :
    Above machine (machine.run setting (count + 1)) dest := by
  induction count with
  | zero =>
      have entered := above_of_pushed running fetched pushed
      rw [run_succ_eq_step]
      exact entered
  | succ count induction =>
      have above := induction fun earlier positive bound => inside earlier positive (by omega)
      rw [run_succ_eq_step]
      rcases above.step setting with still | ⟨value, -, -, resumed⟩
      · exact still
      · have back := resumed.depth_eq
        rw [← run_succ_eq_step] at back
        exact absurd back (inside (count + 2) (by omega) (by omega))

/-- From a call that pushes a frame on, the frames of the caller stay as they are until the depth of
the caller is reached again; there the machine stands after the call, and the caller's frames are
the same but for the destination, which is bound to the value that the matching return carried. -/
theorem call_isolates_caller_frames {callee : Callee} (running : machine.isRunning = true)
    (fetched : setting.program.get? machine.pc = some (.call dest callee))
    (pushed : (machine.step setting).depth = machine.depth + 1) (count : Nat) (later : 0 < count)
    (inside : ∀ earlier, 0 < earlier → earlier < count →
      (machine.run setting earlier).depth ≠ machine.depth) :
    ((machine.run setting count).depth ≠ machine.depth →
      (machine.run setting count).frames.take machine.depth = machine.frames) ∧
    ((machine.run setting count).depth = machine.depth →
      (machine.run setting count).pc = machine.pc + 1 ∧
      ∃ value, Returns setting (machine.run setting (count - 1)) value ∧
        (machine.run setting (count - 1)).depth = machine.depth + 1 ∧
        (machine.run setting count).frames =
          machine.callers.reverse ++ [machine.frame.receive dest value]) := by
  obtain ⟨before, rfl⟩ := Nat.exists_eq_add_of_le' later
  constructor
  · intro deeper
    have above : Above machine (machine.run setting (before + 1)) dest := by
      apply Above.run running fetched pushed
      intro earlier positive bound
      rcases Nat.lt_or_eq_of_le bound with less | rfl
      · exact inside earlier positive less
      · exact deeper
    exact above.take_frames
  · intro back
    cases before with
    | zero =>
        rw [run_succ_eq_step] at back
        exact absurd (pushed.symm.trans back) (by omega)
    | succ before =>
        have above : Above machine (machine.run setting (before + 1)) dest :=
          Above.run running fetched pushed before fun earlier positive bound =>
            inside earlier positive (by omega)
        rcases above.step setting with still | ⟨value, returns, atBase, resumed⟩
        · rw [← run_succ_eq_step] at still
          exact absurd back (Nat.ne_of_gt still.depth_lt)
        · rw [← run_succ_eq_step] at resumed
          exact ⟨resumed.pc, value, returns, atBase, resumed.frames_eq⟩

def nestedCalls : Program :=
  .ofParts
    [.call (some "r") ⟨"outer", true, some 2⟩, .ret (some (.variable "r")),
      .call (some "x") ⟨"inner", true, some 4⟩, .ret (some (.variable "x")),
      .ret (some (.literal (.integer 7)))]
    [("main", 0), ("outer", 2), ("inner", 4)]

def nestedSetting : Setting := .ofConfig nestedCalls (.ofProgram nestedCalls) {}

def nestedStart : Machine := .start nestedCalls (.ofProgram nestedCalls) {}

theorem nested_depths (earlier : Nat) (positive : 0 < earlier) (bound : earlier < 4) :
    (nestedStart.run nestedSetting earlier).depth ≠ nestedStart.depth := by
  have depths : ∀ count, count < 4 → 0 < count →
      (nestedStart.run nestedSetting count).depth ≠ nestedStart.depth := by decide
  exact depths earlier bound positive

theorem nested_call_isolates_caller_frames :
    (nestedStart.run nestedSetting 3).frames.take 1 = nestedStart.frames ∧
      (nestedStart.run nestedSetting 4).pc = 1 ∧
      ∃ value, Returns nestedSetting (nestedStart.run nestedSetting 3) value ∧
        (nestedStart.run nestedSetting 3).depth = 2 ∧
        (nestedStart.run nestedSetting 4).frames = [nestedStart.frame.receive (some "r") value] := by
  have fetched : nestedSetting.program.get? nestedStart.pc =
      some (.call (some "r") ⟨"outer", true, some 2⟩) := rfl
  have inside := (call_isolates_caller_frames (by decide) fetched (by decide) 3 (by decide)
    fun earlier positive bound => nested_depths earlier positive (by omega)).1 (by decide)
  have back := (call_isolates_caller_frames (by decide) fetched (by decide) 4 (by decide)
    nested_depths).2 (by decide)
  exact ⟨inside, back⟩

end Machine

end ThreeAddress
