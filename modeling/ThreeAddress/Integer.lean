/-!
The integers a program computes with: those from `-2 ^ 63` up to, but not including, `2 ^ 63`.
Arithmetic is done on exact integers and the result is admitted only if it lies in that range.
-/

namespace ThreeAddress

abbrev Integer := Int64

namespace Integer

/-- Whether a machine integer has this value. The test goes by the magnitude alone. -/
def inRange : Int → Bool
  | .ofNat magnitude => magnitude < 0x8000000000000000
  | .negSucc magnitude => magnitude < 0x8000000000000000

theorem in_range_iff {value : Int} :
    inRange value = true ↔ -0x8000000000000000 ≤ value ∧ value < 0x8000000000000000 := by
  cases value with
  | ofNat magnitude =>
      simp only [inRange, decide_eq_true_eq, Int.ofNat_eq_natCast]
      omega
  | negSucc magnitude =>
      simp only [inRange, decide_eq_true_eq]
      omega

/-- The machine integer with exactly this value, if there is one. -/
def ofInt? (value : Int) : Option Integer :=
  if inRange value then some (Int64.ofInt value) else none

theorem of_int_eq_some_iff {value : Int} {integer : Integer} :
    ofInt? value = some integer ↔ integer.toInt = value := by
  unfold ofInt?
  split
  · rename_i inside
    have bounds := in_range_iff.1 inside
    rw [Option.some.injEq]
    constructor
    · rintro rfl
      exact Int64.toInt_ofInt_of_le (by omega) (by omega)
    · rintro rfl
      exact Int64.ofInt_toInt integer
  · rename_i outside
    constructor
    · intro impossible
      cases impossible
    · rintro rfl
      have lower := Int64.le_toInt integer
      have upper := Int64.toInt_lt integer
      exact absurd (in_range_iff.2 ⟨by omega, by omega⟩) outside

@[simp] theorem of_int_to_int (integer : Integer) : ofInt? integer.toInt = some integer :=
  of_int_eq_some_iff.2 rfl

theorem of_int_eq_none_iff {value : Int} :
    ofInt? value = none ↔ ¬ (-0x8000000000000000 ≤ value ∧ value < 0x8000000000000000) := by
  rw [← in_range_iff]
  unfold ofInt?
  split <;> simp_all

end Integer

end ThreeAddress
