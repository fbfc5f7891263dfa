import ThreeAddress.Machine

/-!
What operations can fail over. An operator, a native of the prelude and the evaluation of an operand
fail over the operands they are given. Callees and limits are no business of theirs: only the machine
that runs a program, or a native of the host's own, faults over those.
-/

namespace ThreeAddress

/-- A fault over operands, not over a callee or over a limit of the run. -/
def FaultKind.OfOperands : FaultKind → Prop
  | .arithmetic _ | .typeMismatch .. | .arity .. | .unboundVariable _ | .unknownGlobal _ => True
  | .unknownCallee _ | .stepLimitExceeded _ | .callDepthExceeded _ => False

def OperandFaults {α : Type} (result : Except FaultKind α) : Prop :=
  ∀ kind, result = .error kind → kind.OfOperands

variable {α β : Type}

theorem operand_faults_ok (value : α) : OperandFaults (.ok value) := nofun

theorem operand_faults_error {kind : FaultKind} (raised : kind.OfOperands) :
    OperandFaults (.error kind : Except FaultKind α) := by
  intro other same
  cases same
  exact raised

theorem operand_faults_bind {first : Except FaultKind α} {next : α → Except FaultKind β}
    (here : OperandFaults first) (there : ∀ value, OperandFaults (next value)) :
    OperandFaults (first >>= next) := by
  cases first with
  | ok value => exact there value
  | error kind => exact operand_faults_error (here kind rfl)

namespace BinaryOperator

theorem operand_faults_expect_integer (operator : BinaryOperator) (value : Value) :
    OperandFaults (operator.expectInteger value) := by
  cases value with
  | integer number => exact operand_faults_ok number
  | text contents | globalRef name => exact operand_faults_error trivial

theorem operand_faults_on_integers (operator : BinaryOperator)
    (operation : Integer → Integer → Option Integer) (left right : Value) :
    OperandFaults (operator.onIntegers operation left right) := by
  apply operand_faults_bind (operator.operand_faults_expect_integer left)
  intro first
  apply operand_faults_bind (operator.operand_faults_expect_integer right)
  intro second
  split
  · exact operand_faults_ok _
  · exact operand_faults_error trivial

theorem operand_faults_with_divisor (operator : BinaryOperator) (problem : ArithmeticProblem)
    (operation : Integer → Integer → Option Integer) (left right : Value) :
    OperandFaults (operator.withDivisor problem operation left right) := by
  apply operand_faults_bind (operator.operand_faults_expect_integer left)
  intro first
  apply operand_faults_bind (operator.operand_faults_expect_integer right)
  intro divisor
  split
  · exact operand_faults_error trivial
  · exact operator.operand_faults_on_integers operation left right

theorem operand_faults_on_order (operator : BinaryOperator) (test : Ordering → Bool)
    (left right : Value) : OperandFaults (operator.onOrder test left right) := by
  rw [onOrder]
  split
  · exact operand_faults_ok _
  · exact operand_faults_error trivial

theorem operand_faults_apply (operator : BinaryOperator) (left right : Value) :
    OperandFaults (operator.apply left right) := by
  cases operator with
  | add =>
      simp only [apply]
      split
      · exact operand_faults_ok _
      · exact operand_faults_on_integers _ _ left right
  | sub | mul => exact operand_faults_on_integers _ _ left right
  | div | mod => exact operand_faults_with_divisor _ _ _ left right
  | eq => exact operand_faults_ok _
  | le | ge | gt | lt => exact operand_faults_on_order _ _ left right

end BinaryOperator

namespace Native

theorem operand_faults_expect_integer (name : String) (value : Value) :
    OperandFaults (expectInteger name value) := by
  cases value with
  | integer number => exact operand_faults_ok number
  | text contents | globalRef word => exact operand_faults_error trivial

theorem operand_faults_expect_text (name : String) (value : Value) :
    OperandFaults (expectText name value) := by
  cases value with
  | text contents => exact operand_faults_ok contents
  | integer number | globalRef word => exact operand_faults_error trivial

theorem operand_faults_absolute (number : Integer) : OperandFaults (absolute number) := by
  rw [absolute]
  split
  · exact operand_faults_ok _
  · exact operand_faults_error trivial

theorem operand_faults_text_length (contents : String) : OperandFaults (textLength contents) := by
  rw [textLength]
  split
  · exact operand_faults_ok _
  · exact operand_faults_error trivial

/-- A wrong number of arguments is over operands, so only the body matters. -/
theorem operand_faults_call {native : Native} {arguments : List Value}
    (within : OperandFaults (native.body arguments)) : OperandFaults (native.call arguments) := by
  by_cases matched : arguments.length = native.arity
  · rw [call_of_right_count matched]
    exact within
  · rw [call_of_wrong_count matched]
    exact operand_faults_error trivial

theorem operand_faults_unary {name : String} {body : Value → Except FaultKind Value}
    (within : ∀ value, OperandFaults (body value)) (arguments : List Value) :
    OperandFaults ((unary name body).call arguments) := by
  apply operand_faults_call
  unfold unary
  dsimp only
  split
  · exact within _
  · exact operand_faults_error trivial

theorem operand_faults_binary {name : String} {body : Value → Value → Except FaultKind Value}
    (within : ∀ left right, OperandFaults (body left right)) (arguments : List Value) :
    OperandFaults ((binary name body).call arguments) := by
  apply operand_faults_call
  unfold binary
  dsimp only
  split
  · exact within _ _
  · exact operand_faults_error trivial

theorem operand_faults_on_integer {name : String} {next : Integer → Except FaultKind Value}
    (within : ∀ number, OperandFaults (next number)) (value : Value) :
    OperandFaults (expectInteger name value >>= next) :=
  operand_faults_bind (operand_faults_expect_integer name value) within

theorem operand_faults_on_text {name : String} {next : String → Except FaultKind Value}
    (within : ∀ contents, OperandFaults (next contents)) (value : Value) :
    OperandFaults (expectText name value >>= next) :=
  operand_faults_bind (operand_faults_expect_text name value) within

/-- The natives of the prelude fail over their operands only. Other natives can fail over anything. -/
theorem operand_faults_prelude {native : Native} (installed : native ∈ prelude)
    (arguments : List Value) : OperandFaults (native.call arguments) := by
  simp only [prelude, List.mem_cons, List.not_mem_nil, or_false] at installed
  rcases installed with rfl | rfl | rfl | rfl | rfl | rfl
  · exact operand_faults_unary (operand_faults_on_integer operand_faults_absolute) arguments
  · refine operand_faults_binary ?_ arguments
    intro left right
    refine operand_faults_on_integer (fun first => ?_) left
    exact operand_faults_on_integer (fun second => operand_faults_ok _) right
  · refine operand_faults_binary ?_ arguments
    intro left right
    refine operand_faults_on_integer (fun first => ?_) left
    exact operand_faults_on_integer (fun second => operand_faults_ok _) right
  · exact operand_faults_unary (operand_faults_on_text operand_faults_text_length) arguments
  · refine operand_faults_binary ?_ arguments
    intro left right
    refine operand_faults_on_text (fun first => ?_) left
    exact operand_faults_on_text (fun second => operand_faults_ok _) right
  · exact operand_faults_unary (operand_faults_on_integer fun number => operand_faults_ok _) arguments

end Native

theorem Machine.operand_faults_evaluate (setting : Setting) (machine : Machine)
    (operand : Operand) : OperandFaults (machine.evaluate setting operand) := by
  cases operand with
  | «variable» name =>
      simp only [evaluate]
      split
      · exact operand_faults_ok _
      · exact operand_faults_error trivial
  | global name =>
      simp only [evaluate]
      split
      · exact operand_faults_ok _
      · exact operand_faults_ok _
      · exact operand_faults_ok _
      · split
        · exact operand_faults_ok _
        · exact operand_faults_error trivial
  | literal value => exact operand_faults_ok value

end ThreeAddress
