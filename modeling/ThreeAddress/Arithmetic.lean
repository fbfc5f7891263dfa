import ThreeAddress.Fault

/-!
What the binary operators compute. Integer results are exact or a fault, never wrapped; division
truncates toward zero; texts can be joined and compared; any two values can be tested for equality.
-/

namespace ThreeAddress

namespace Integer

def add? (left right : Integer) : Option Integer := ofInt? (left.toInt + right.toInt)

def sub? (left right : Integer) : Option Integer := ofInt? (left.toInt - right.toInt)

def mul? (left right : Integer) : Option Integer := ofInt? (left.toInt * right.toInt)

def div? (left right : Integer) : Option Integer := ofInt? (left.toInt.tdiv right.toInt)

/-- The remainder of truncated division. There is none where the quotient is out of range. -/
def mod? (left right : Integer) : Option Integer :=
  (div? left right).bind fun _ => ofInt? (left.toInt.tmod right.toInt)

end Integer

namespace Value

/-- Integers are ordered as numbers and texts by their characters. Other pairs have no order; the
error is the kind of the value that stands in the way. -/
def order : Value → Value → Except ValueKind Ordering
  | .integer left, .integer right => .ok (compareOfLessAndEq left.toInt right.toInt)
  | .text left, .text right => .ok (compareOfLessAndEq left right)
  | .integer _, other => .error other.kind
  | other, _ => .error other.kind

end Value

namespace BinaryOperator

def expectInteger (operator : BinaryOperator) : Value → Except FaultKind Integer
  | .integer number => .ok number
  | other => .error (.typeMismatch .integer other.kind (.operator operator))

def onIntegers (operator : BinaryOperator) (operation : Integer → Integer → Option Integer)
    (left right : Value) : Except FaultKind Value := do
  let first ← operator.expectInteger left
  let second ← operator.expectInteger right
  match operation first second with
  | some result => return .integer result
  | none => .error (.arithmetic (.overflow first operator second))

/-- Refuses a zero divisor, once both operands are known to be integers. -/
def withDivisor (operator : BinaryOperator) (problem : ArithmeticProblem)
    (operation : Integer → Integer → Option Integer) (left right : Value) :
    Except FaultKind Value := do
  let _ ← operator.expectInteger left
  let divisor ← operator.expectInteger right
  if divisor = 0 then .error (.arithmetic problem) else operator.onIntegers operation left right

def onOrder (operator : BinaryOperator) (test : Ordering → Bool) (left right : Value) :
    Except FaultKind Value :=
  match left.order right with
  | .ok order => .ok (.ofBool (test order))
  | .error kind => .error (.typeMismatch .comparable kind (.operator operator))

def apply (operator : BinaryOperator) (left right : Value) : Except FaultKind Value :=
  match operator with
  | .add =>
      match left, right with
      | .text first, .text second => .ok (.text (first ++ second))
      | _, _ => operator.onIntegers Integer.add? left right
  | .sub => operator.onIntegers Integer.sub? left right
  | .mul => operator.onIntegers Integer.mul? left right
  | .div => operator.withDivisor .divisionByZero Integer.div? left right
  | .mod => operator.withDivisor .moduloByZero Integer.mod? left right
  | .eq => .ok (.ofBool (left = right))
  | .le => operator.onOrder Ordering.isLE left right
  | .ge => operator.onOrder Ordering.isGE left right
  | .gt => operator.onOrder Ordering.isGT left right
  | .lt => operator.onOrder Ordering.isLT left right

end BinaryOperator

end ThreeAddress
