import ThreeAddress.Arithmetic

/-!
Exact arithmetic. What an operator should give on integers is said on unbounded integers, and
division by its remainder, without reference to how the machine computes it. An operator on machine
integers gives that result wherever it is in range and faults everywhere else; operands of another
kind are refused before anything is computed. The remainder is the one exception: it is refused
where the quotient is out of range, although it would fit itself.
-/

namespace ThreeAddress

/-- Division with the quotient rounded toward zero: what remains is smaller than the divisor and,
unless nothing remains, has the sign of the dividend. -/
structure Truncated (dividend divisor quotient remainder : Int) : Prop where
  whole : dividend = quotient * divisor + remainder
  small : remainder.natAbs < divisor.natAbs
  sign : remainder = 0 ∨ remainder.sign = dividend.sign

namespace Truncated

variable {dividend divisor quotient remainder : Int}

theorem divisor_ne_zero (divided : Truncated dividend divisor quotient remainder) :
    divisor ≠ 0 := by
  have small := divided.small
  omega

theorem of_tdiv (nonzero : divisor ≠ 0) :
    Truncated dividend divisor (dividend.tdiv divisor) (dividend.tmod divisor) := by
  refine ⟨?_, ?_, ?_⟩
  · rw [Int.mul_comm, Int.mul_tdiv_add_tmod]
  · rw [Int.natAbs_tmod]
    exact Nat.mod_lt _ (Int.natAbs_pos.2 nonzero)
  · by_cases divides : divisor ∣ dividend
    · exact .inl (Int.tmod_eq_zero_of_dvd divides)
    · rw [Int.sign_tmod, if_neg divides]
      exact .inr rfl

theorem eq_tdiv (divided : Truncated dividend divisor quotient remainder) :
    quotient = dividend.tdiv divisor ∧ remainder = dividend.tmod divisor := by
  have nonzero := divided.divisor_ne_zero
  obtain ⟨whole, small, sign⟩ := divided
  have same : remainder + divisor * quotient = dividend := by
    rw [Int.mul_comm]
    omega
  rcases Int.le_total 0 dividend with natural | negative
  · have above : 0 ≤ remainder := by
      rcases sign with zero | signs
      · omega
      · exact Int.sign_nonneg_iff.1 (signs ▸ Int.sign_nonneg_iff.2 natural)
    obtain ⟨first, second⟩ := (Int.tdiv_tmod_unique natural nonzero).2 ⟨same, above, by omega⟩
    exact ⟨first.symm, second.symm⟩
  · have below : remainder ≤ 0 := by
      rcases sign with zero | signs
      · omega
      · exact Int.sign_nonpos_iff.1 (signs ▸ Int.sign_nonpos_iff.2 negative)
    obtain ⟨first, second⟩ := (Int.tdiv_tmod_unique' negative nonzero).2 ⟨same, by omega, below⟩
    exact ⟨first.symm, second.symm⟩

end Truncated

namespace BinaryOperator

def Exact (operator : BinaryOperator) (first second result : Int) : Prop :=
  match operator with
  | .add => result = first + second
  | .sub => result = first - second
  | .mul => result = first * second
  | .div => ∃ remainder, Truncated first second result remainder
  | .mod => ∃ quotient, Truncated first second quotient result
  | .eq | .le | .ge | .gt | .lt => False

/-- A result of this size is a machine integer: it is at least `-2 ^ 63` and less than `2 ^ 63`. -/
def Fits (result : Int) : Prop := -0x8000000000000000 ≤ result ∧ result < 0x8000000000000000

instance (result : Int) : Decidable (Fits result) := inferInstanceAs (Decidable (_ ∧ _))

theorem exact_div_iff {first second result : Int} :
    BinaryOperator.div.Exact first second result ↔ second ≠ 0 ∧ result = first.tdiv second := by
  constructor
  · intro divided
    obtain ⟨remainder, truncated⟩ := divided
    exact ⟨truncated.divisor_ne_zero, truncated.eq_tdiv.1⟩
  · intro divided
    obtain ⟨nonzero, rfl⟩ := divided
    exact ⟨_, .of_tdiv nonzero⟩

theorem fits_iff_exists {result : Int} :
    Fits result ↔ ∃ integer : Integer, integer.toInt = result := by
  constructor
  · intro fits
    refine ⟨Int64.ofInt result, Int64.toInt_ofInt_of_le fits.1 fits.2⟩
  · intro held
    obtain ⟨integer, rfl⟩ := held
    exact ⟨Int64.le_toInt integer, Int64.toInt_lt integer⟩

def firstOther? (left right : Value) : Option Value :=
  [left, right].find? fun value => value.kind ≠ .integer

section OnIntegers

variable (operator : BinaryOperator) (operation : Integer → Integer → Option Integer)

theorem on_integers_integers (first second : Integer) :
    operator.onIntegers operation (.integer first) (.integer second) =
      (operation first second).elim (.error (.arithmetic (.overflow first operator second)))
        fun result => .ok (.integer result) := by
  cases computed : operation first second with
  | some result => simp [onIntegers, expectInteger, computed, bind, Except.bind, pure, Except.pure]
  | none => simp [onIntegers, expectInteger, computed, bind, Except.bind]

theorem on_integers_eq_ok_iff {first second result : Integer} :
    operator.onIntegers operation (.integer first) (.integer second) = .ok (.integer result) ↔
      operation first second = some result := by
  rw [on_integers_integers]
  cases operation first second <;> simp

theorem on_integers_of_no_result {first second : Integer}
    (refused : ∀ result, operation first second ≠ some result) :
    operator.onIntegers operation (.integer first) (.integer second) =
      .error (.arithmetic (.overflow first operator second)) := by
  rw [on_integers_integers, Option.eq_none_iff_forall_ne_some.2 refused]
  rfl

/-- Operands are checked from left to right, before anything else is. -/
theorem expect_integers_of_other {left right other : Value}
    (found : firstOther? left right = some other)
    (next : Integer → Integer → Except FaultKind Value) :
    (do
      let first ← operator.expectInteger left
      let second ← operator.expectInteger right
      next first second) =
      .error (.typeMismatch .integer other.kind (.operator operator)) := by
  cases left with
  | integer first =>
      cases right with
      | integer second => cases found
      | text contents | globalRef name =>
          cases found
          rfl
  | text contents | globalRef name =>
      cases found
      rfl

theorem on_integers_of_other {left right other : Value}
    (found : firstOther? left right = some other) :
    operator.onIntegers operation left right =
      .error (.typeMismatch .integer other.kind (.operator operator)) :=
  expect_integers_of_other operator found _

theorem with_divisor_of_other {problem : ArithmeticProblem} {left right other : Value}
    (found : firstOther? left right = some other) :
    operator.withDivisor problem operation left right =
      .error (.typeMismatch .integer other.kind (.operator operator)) :=
  expect_integers_of_other operator found _

theorem with_divisor_integers (problem : ArithmeticProblem) (first second : Integer) :
    operator.withDivisor problem operation (.integer first) (.integer second) =
      if second = 0 then .error (.arithmetic problem)
      else operator.onIntegers operation (.integer first) (.integer second) := rfl

end OnIntegers

def arithmetic : List BinaryOperator := [.add, .sub, .mul, .div]

theorem mem_arithmetic_iff {operator : BinaryOperator} :
    operator ∈ arithmetic ↔
      operator = .add ∨ operator = .sub ∨ operator = .mul ∨ operator = .div := by
  simp [arithmetic]

theorem to_int_ne_zero_iff {integer : Integer} : integer.toInt ≠ 0 ↔ integer ≠ 0 := by
  rw [Ne, Ne, ← Int64.toInt_inj]
  rfl

theorem div_integers_eq_ok_iff {first second result : Integer} :
    BinaryOperator.div.apply (.integer first) (.integer second) = .ok (.integer result) ↔
      BinaryOperator.div.Exact first.toInt second.toInt result.toInt := by
  rw [exact_div_iff, to_int_ne_zero_iff, apply, with_divisor_integers]
  by_cases zero : second = 0
  · simp [zero]
  · rw [if_neg zero, on_integers_eq_ok_iff, Integer.div?, Integer.of_int_eq_some_iff]
    simp [zero]

theorem apply_integers_eq_ok_iff {operator : BinaryOperator} (member : operator ∈ arithmetic)
    {first second result : Integer} :
    operator.apply (.integer first) (.integer second) = .ok (.integer result) ↔
      operator.Exact first.toInt second.toInt result.toInt := by
  rcases mem_arithmetic_iff.1 member with rfl | rfl | rfl | rfl
  · exact (on_integers_eq_ok_iff _ _).trans Integer.of_int_eq_some_iff
  · exact (on_integers_eq_ok_iff _ _).trans Integer.of_int_eq_some_iff
  · exact (on_integers_eq_ok_iff _ _).trans Integer.of_int_eq_some_iff
  · exact div_integers_eq_ok_iff

/-- On integers without a result in range there is a fault, which names what is wrong. -/
theorem apply_integers_of_no_result {operator : BinaryOperator} (member : operator ∈ arithmetic)
    {first second : Integer}
    (refused : ∀ result : Integer,
      operator.apply (.integer first) (.integer second) ≠ .ok (.integer result)) :
    operator.apply (.integer first) (.integer second) =
      .error (.arithmetic
        (if operator = .div ∧ second = 0 then .divisionByZero
        else .overflow first operator second)) := by
  -- A result of the operation would be the result of the operator.
  have computed : ∀ operation, operator.apply (.integer first) (.integer second) =
      operator.onIntegers operation (.integer first) (.integer second) →
      operator.apply (.integer first) (.integer second) =
        .error (.arithmetic (.overflow first operator second)) := by
    intro operation same
    rw [same, on_integers_of_no_result]
    intro result found
    exact refused result (same.trans ((on_integers_eq_ok_iff _ _).2 found))
  rcases mem_arithmetic_iff.1 member with rfl | rfl | rfl | rfl
  · exact computed Integer.add? rfl
  · exact computed Integer.sub? rfl
  · exact computed Integer.mul? rfl
  · by_cases zero : second = 0
    · rw [if_pos ⟨rfl, zero⟩, apply, with_divisor_integers, if_pos zero]
    · rw [if_neg fun both => zero both.2]
      exact computed Integer.div? (if_neg zero)

theorem apply_of_other {operator : BinaryOperator} (member : operator ∈ arithmetic)
    {left right other : Value} (found : firstOther? left right = some other)
    (apart : ¬ (operator = .add ∧ left.kind = .text ∧ right.kind = .text)) :
    operator.apply left right =
      .error (.typeMismatch .integer other.kind (.operator operator)) := by
  rcases mem_arithmetic_iff.1 member with rfl | rfl | rfl | rfl
  · simp only [apply]
    split
    · exact absurd ⟨rfl, rfl, rfl⟩ apart
    · exact on_integers_of_other _ _ found
  · exact on_integers_of_other _ _ found
  · exact on_integers_of_other _ _ found
  · exact with_divisor_of_other _ _ found

theorem integers_of_no_other {left right : Value} (none : firstOther? left right = none) :
    ∃ first second, left = .integer first ∧ right = .integer second := by
  cases left with
  | integer first =>
      cases right with
      | integer second => exact ⟨first, second, rfl, rfl⟩
      | text contents | globalRef name => cases none
  | text contents | globalRef name => cases none

theorem integers_of_apply {operator : BinaryOperator} (member : operator ∈ arithmetic)
    {left right : Value} {result : Integer}
    (computed : operator.apply left right = .ok (.integer result)) :
    ∃ first second, left = .integer first ∧ right = .integer second := by
  cases found : firstOther? left right with
  | none => exact integers_of_no_other found
  | some other =>
      by_cases texts : operator = .add ∧ left.kind = .text ∧ right.kind = .text
      · obtain ⟨rfl, leftText, rightText⟩ := texts
        cases left <;> cases leftText
        cases right <;> cases rightText
        cases computed
      · rw [apply_of_other member found texts] at computed
        cases computed

/-- Arithmetic is exact or faults. The result is an integer exactly if both operands are integers
and the exact result is in range, and then it is that result; two texts are joined by `+`; integers
without such a result are an arithmetic fault, and all other operands a type fault over the first
operand that is no integer, whatever the divisor is. -/
theorem arithmetic_is_exact_or_faults {operator : BinaryOperator} (member : operator ∈ arithmetic)
    (left right : Value) :
    (∀ result : Integer, operator.apply left right = .ok (.integer result) ↔
      ∃ first second : Integer, left = .integer first ∧ right = .integer second ∧
        (operator = .div → second ≠ 0) ∧
        ∃ exact, operator.Exact first.toInt second.toInt exact ∧ Fits exact ∧
          result.toInt = exact) ∧
    (∀ first second : String, operator = .add → left = .text first → right = .text second →
      operator.apply left right = .ok (.text (first ++ second))) ∧
    (∀ first second : Integer, left = .integer first → right = .integer second →
      (¬ ∃ exact, operator.Exact first.toInt second.toInt exact ∧ Fits exact) →
      operator.apply left right = .error (.arithmetic
        (if operator = .div ∧ second = 0 then .divisionByZero
        else .overflow first operator second))) ∧
    ∀ other, firstOther? left right = some other →
      ¬ (operator = .add ∧ left.kind = .text ∧ right.kind = .text) →
      operator.apply left right =
        .error (.typeMismatch .integer other.kind (.operator operator)) := by
  refine ⟨?_, ?_, ?_, ?_⟩
  · intro result
    constructor
    · intro computed
      obtain ⟨first, second, rfl, rfl⟩ := integers_of_apply member computed
      have exact := (apply_integers_eq_ok_iff member).1 computed
      refine ⟨first, second, rfl, rfl, ?_, _, exact, fits_iff_exists.2 ⟨result, rfl⟩, rfl⟩
      rintro rfl
      exact to_int_ne_zero_iff.1 (exact_div_iff.1 exact).1
    · intro correct
      obtain ⟨first, second, rfl, rfl, -, exact, correct, -, rfl⟩ := correct
      exact (apply_integers_eq_ok_iff member).2 correct
  · intro first second sum text other
    rw [sum, text, other]
    rfl
  · intro first second integer other unfit
    subst integer other
    apply apply_integers_of_no_result member
    intro result found
    exact unfit ⟨_, (apply_integers_eq_ok_iff member).1 found, fits_iff_exists.2 ⟨result, rfl⟩⟩
  · intro other found apart
    exact apply_of_other member found apart

/-- The quotient of the least integer by minus one is out of range, a global in front of a zero
divisor is refused for its kind, and sums go up to the greatest integer. -/
theorem arithmetic_at_the_bounds :
    BinaryOperator.div ∈ arithmetic ∧ BinaryOperator.add ∈ arithmetic ∧
      (¬ ∃ exact, BinaryOperator.div.Exact (-0x8000000000000000) (-1) exact ∧ Fits exact) ∧
      BinaryOperator.div.apply (.integer Int64.minValue) (.integer (-1)) =
        .error (.arithmetic (.overflow Int64.minValue .div (-1))) ∧
      BinaryOperator.div.apply (.globalRef "f") (.integer 0) =
        .error (.typeMismatch .integer .global (.operator .div)) ∧
      BinaryOperator.add.apply (.integer (Int64.maxValue - 1)) (.integer 1) =
        .ok (.integer Int64.maxValue) ∧
      BinaryOperator.add.apply (.text "é") (.text "") = .ok (.text "é") := by
  have division : BinaryOperator.div ∈ arithmetic := by decide
  have sum : BinaryOperator.add ∈ arithmetic := by decide
  have unfit : ¬ ∃ exact,
      BinaryOperator.div.Exact (-0x8000000000000000) (-1) exact ∧ Fits exact := by
    rintro ⟨exact, divided, fits⟩
    rw [(exact_div_iff.1 divided).2] at fits
    exact absurd fits.2 (by decide)
  refine ⟨division, sum, unfit, ?_, ?_, ?_, ?_⟩
  · exact (arithmetic_is_exact_or_faults division _ _).2.2.1 Int64.minValue (-1) rfl rfl unfit
  · exact (arithmetic_is_exact_or_faults division _ _).2.2.2 (.globalRef "f") rfl (by decide)
  · refine ((arithmetic_is_exact_or_faults sum _ _).1 _).2
      ⟨_, _, rfl, rfl, by decide, _, rfl, ?_, ?_⟩
    · decide
    · decide
  · exact (arithmetic_is_exact_or_faults sum _ _).2.1 "é" "" rfl rfl rfl

/-! ### Remainders -/

/-- The one quotient out of range is that of the least integer by minus one. -/
theorem fits_quotient_iff {dividend divisor : Integer} (nonzero : divisor ≠ 0) :
    Fits (dividend.toInt.tdiv divisor.toInt) ↔ ¬ (dividend = Int64.minValue ∧ divisor = -1) := by
  have positive : divisor.toInt ≠ 0 := to_int_ne_zero_iff.2 nonzero
  have lower := Int64.le_toInt dividend
  have upper := Int64.toInt_lt dividend
  constructor
  · rintro fits ⟨rfl, rfl⟩
    exact absurd fits.2 (by decide)
  · intro ordinary
    rcases Nat.lt_or_ge 1 divisor.toInt.natAbs with large | unit
    · have half : (dividend.toInt.tdiv divisor.toInt).natAbs ≤ dividend.toInt.natAbs / 2 := by
        rw [Int.natAbs_tdiv]
        exact Nat.div_le_div_left large (by decide)
      rw [Fits]
      omega
    · have choices : divisor.toInt = 1 ∨ divisor.toInt = -1 := by omega
      rcases choices with one | minus
      · rw [one, Int.tdiv_one]
        exact ⟨lower, upper⟩
      · have above : dividend.toInt ≠ -0x8000000000000000 := by
          intro least
          exact ordinary ⟨Int64.toInt_inj.1 least, Int64.toInt_inj.1 minus⟩
        rw [minus, Int.tdiv_neg, Int.tdiv_one, Fits]
        omega

theorem fits_remainder (dividend : Int) {divisor : Integer} (nonzero : divisor ≠ 0) :
    Fits (dividend.tmod divisor.toInt) := by
  have small := (@Truncated.of_tdiv dividend _ (to_int_ne_zero_iff.2 nonzero)).small
  have lower := Int64.le_toInt divisor
  have upper := Int64.toInt_lt divisor
  rw [Fits]
  omega

theorem mod_eq_some_iff {dividend divisor remainder : Integer} (nonzero : divisor ≠ 0) :
    Integer.mod? dividend divisor = some remainder ↔
      ¬ (dividend = Int64.minValue ∧ divisor = -1) ∧
        remainder.toInt = dividend.toInt.tmod divisor.toInt := by
  rw [← fits_quotient_iff nonzero, fits_iff_exists, Integer.mod?, Option.bind_eq_some_iff]
  simp only [Integer.div?, Integer.of_int_eq_some_iff, exists_and_right]

theorem mod_integers_of_zero (dividend : Integer) :
    BinaryOperator.mod.apply (.integer dividend) (.integer 0) =
      .error (.arithmetic .moduloByZero) := by
  rw [apply, with_divisor_integers, if_pos rfl]

theorem mod_integers_of_least :
    BinaryOperator.mod.apply (.integer Int64.minValue) (.integer (-1)) =
      .error (.arithmetic (.overflow Int64.minValue .mod (-1))) := rfl

theorem mod_integers_of_ordinary {dividend divisor : Integer} (nonzero : divisor ≠ 0)
    (ordinary : ¬ (dividend = Int64.minValue ∧ divisor = -1)) :
    ∃ remainder : Integer, remainder.toInt = dividend.toInt.tmod divisor.toInt ∧
      BinaryOperator.mod.apply (.integer dividend) (.integer divisor) =
        .ok (.integer remainder) := by
  obtain ⟨remainder, same⟩ := fits_iff_exists.1 (fits_remainder dividend.toInt nonzero)
  refine ⟨remainder, same, ?_⟩
  rw [apply, with_divisor_integers, if_neg nonzero, on_integers_eq_ok_iff, mod_eq_some_iff nonzero]
  exact ⟨ordinary, same⟩

theorem div_integers_of_ordinary {dividend divisor : Integer} (nonzero : divisor ≠ 0)
    (ordinary : ¬ (dividend = Int64.minValue ∧ divisor = -1)) :
    ∃ quotient : Integer, quotient.toInt = dividend.toInt.tdiv divisor.toInt ∧
      BinaryOperator.div.apply (.integer dividend) (.integer divisor) =
        .ok (.integer quotient) := by
  obtain ⟨quotient, same⟩ := fits_iff_exists.1 ((fits_quotient_iff nonzero).2 ordinary)
  refine ⟨quotient, same, ?_⟩
  rw [div_integers_eq_ok_iff, exact_div_iff]
  exact ⟨to_int_ne_zero_iff.2 nonzero, same⟩

/-- The remainder is that of the quotient that division gives, for every divisor but zero, unless
the least integer is divided by minus one. There the quotient is out of range, and the remainder is
refused with it; a zero divisor apart, it is refused for nothing else. -/
theorem remainder_completes_quotient (dividend divisor : Integer) :
    (divisor ≠ 0 → ¬ (dividend = Int64.minValue ∧ divisor = -1) →
      ∃ quotient remainder : Integer,
        BinaryOperator.mod.apply (.integer dividend) (.integer divisor) = .ok (.integer remainder) ∧
        BinaryOperator.div.apply (.integer dividend) (.integer divisor) = .ok (.integer quotient) ∧
        Truncated dividend.toInt divisor.toInt quotient.toInt remainder.toInt) ∧
    ∀ problem, BinaryOperator.mod.apply (.integer dividend) (.integer divisor) =
        .error (.arithmetic problem) ↔
      divisor = 0 ∧ problem = .moduloByZero ∨
        dividend = Int64.minValue ∧ divisor = -1 ∧ problem = .overflow dividend .mod divisor := by
  constructor
  · intro nonzero ordinary
    obtain ⟨quotient, quotientSame, divided⟩ := div_integers_of_ordinary nonzero ordinary
    obtain ⟨remainder, remainderSame, reduced⟩ := mod_integers_of_ordinary nonzero ordinary
    refine ⟨quotient, remainder, reduced, divided, ?_⟩
    rw [quotientSame, remainderSame]
    exact .of_tdiv (to_int_ne_zero_iff.2 nonzero)
  · intro problem
    constructor
    · intro failed
      by_cases zero : divisor = 0
      · rw [zero, mod_integers_of_zero] at failed
        cases failed
        exact .inl ⟨zero, rfl⟩
      · by_cases least : dividend = Int64.minValue ∧ divisor = -1
        · obtain ⟨rfl, rfl⟩ := least
          rw [mod_integers_of_least] at failed
          cases failed
          exact .inr ⟨rfl, rfl, rfl⟩
        · obtain ⟨remainder, -, reduced⟩ := mod_integers_of_ordinary zero least
          rw [reduced] at failed
          cases failed
    · rintro (⟨rfl, rfl⟩ | ⟨rfl, rfl, rfl⟩)
      · exact mod_integers_of_zero dividend
      · exact mod_integers_of_least

/-- Next to the exception the remainder takes the sign of the dividend. -/
theorem remainder_completes_least_quotient :
    (3 : Integer) ≠ 0 ∧ ¬ (Int64.minValue = Int64.minValue ∧ (3 : Integer) = -1) ∧
      ∃ quotient remainder : Integer,
        BinaryOperator.mod.apply (.integer Int64.minValue) (.integer 3) = .ok (.integer remainder) ∧
        BinaryOperator.div.apply (.integer Int64.minValue) (.integer 3) = .ok (.integer quotient) ∧
        Truncated Int64.minValue.toInt (3 : Integer).toInt quotient.toInt remainder.toInt := by
  have nonzero : (3 : Integer) ≠ 0 := by decide
  have ordinary : ¬ (Int64.minValue = Int64.minValue ∧ (3 : Integer) = -1) := by decide
  exact ⟨nonzero, ordinary, (remainder_completes_quotient _ _).1 nonzero ordinary⟩

/-- The least integer has no remainder by minus one, although the divisor is not zero and the exact
remainder, which is zero, would fit. -/
theorem least_has_no_remainder :
    (-1 : Integer) ≠ 0 ∧
      Truncated Int64.minValue.toInt (-1 : Integer).toInt 0x8000000000000000 0 ∧ Fits 0 ∧
      ¬ ∃ remainder : Integer, BinaryOperator.mod.apply (.integer Int64.minValue) (.integer (-1)) =
        .ok (.integer remainder) := by
  refine ⟨by decide, ⟨by decide, by decide, .inl rfl⟩, by decide, ?_⟩
  rintro ⟨remainder, reduced⟩
  rw [mod_integers_of_least] at reduced
  cases reduced

end BinaryOperator

end ThreeAddress
