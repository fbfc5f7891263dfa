import ThreeAddress.Arithmetic
import ThreeAddress.Proofs.TextOrder

/-!
Comparison of values. Integers are ordered as numbers and texts by their characters, and the five
comparisons are all read off this one order, which is total on integers and on texts. No other two
values are ordered, and a comparison that needs their order faults.
-/

namespace ThreeAddress

namespace Value

inductive Less : Value → Value → Prop where
  | integer {first second : Integer} (below : first.toInt < second.toInt) :
      Less (.integer first) (.integer second)
  | text {first second : String} (before : Text.Precedes first.toList second.toList) :
      Less (.text first) (.text second)

def Comparable (left right : Value) : Prop :=
  left.kind = .integer ∧ right.kind = .integer ∨ left.kind = .text ∧ right.kind = .text

theorem less_integers_iff {first second : Integer} :
    Less (.integer first) (.integer second) ↔ first.toInt < second.toInt := by
  constructor
  · intro less
    cases less with
    | integer below => exact below
  · exact .integer

theorem less_texts_iff {first second : String} :
    Less (.text first) (.text second) ↔ Text.Precedes first.toList second.toList := by
  constructor
  · intro less
    cases less with
    | text before => exact before
  · exact .text

theorem Less.irrefl (value : Value) : ¬ Less value value := by
  intro less
  cases less with
  | integer below => exact Int.lt_irrefl _ below
  | text before => exact String.lt_irrefl _ before

theorem Less.trans {left middle right : Value} (first : Less left middle)
    (second : Less middle right) : Less left right := by
  cases first with
  | integer below =>
      cases second with
      | integer above => exact .integer (Int.lt_trans below above)
  | text before =>
      cases second with
      | text after => exact .text (String.lt_trans before after)

theorem Less.comparable {left right : Value} (less : Less left right) : Comparable left right := by
  cases less with
  | integer below => exact .inl ⟨rfl, rfl⟩
  | text before => exact .inr ⟨rfl, rfl⟩

theorem Comparable.symm {left right : Value} (comparable : Comparable left right) :
    Comparable right left := by
  rcases comparable with integers | texts
  · exact .inl integers.symm
  · exact .inr texts.symm

inductive Ordered : Value → Value → Ordering → Prop where
  | less {left right : Value} (less : Less left right) : Ordered left right .lt
  | same (value : Value) : Ordered value value .eq
  | greater {left right : Value} (less : Less right left) : Ordered left right .gt

theorem Ordered.unique {left right : Value} {first second : Ordering}
    (here : Ordered left right first) (there : Ordered left right second) : first = second := by
  cases here with
  | less less =>
      cases there with
      | less other => rfl
      | same => exact absurd less (Less.irrefl _)
      | greater other => exact absurd (less.trans other) (Less.irrefl _)
  | same =>
      cases there with
      | less other => exact absurd other (Less.irrefl _)
      | same => rfl
      | greater other => exact absurd other (Less.irrefl _)
  | greater less =>
      cases there with
      | less other => exact absurd (less.trans other) (Less.irrefl _)
      | same => exact absurd less (Less.irrefl _)
      | greater other => rfl

theorem order_integers (first second : Integer) :
    ∃ found, order (.integer first) (.integer second) = .ok found ∧
      Ordered (.integer first) (.integer second) found := by
  refine ⟨_, rfl, ?_⟩
  rw [compareOfLessAndEq]
  split
  · exact .less (.integer ‹_›)
  · split
    · rename_i same
      rw [Int64.toInt_inj.1 same]
      exact .same _
    · exact .greater (.integer (by omega))

theorem order_texts (first second : String) :
    ∃ found, order (.text first) (.text second) = .ok found ∧
      Ordered (.text first) (.text second) found := by
  refine ⟨_, rfl, ?_⟩
  rw [compareOfLessAndEq]
  split
  · exact .less (.text ‹_›)
  · split
    · rename_i same
      rw [same]
      exact .same _
    · exact .greater (.text (NameMap.name_lt_of_not_lt ‹_› ‹_›))

theorem order_of_comparable {left right : Value} (comparable : Comparable left right) :
    ∃ found, left.order right = .ok found ∧ Ordered left right found := by
  rcases comparable with ⟨leftKind, rightKind⟩ | ⟨leftKind, rightKind⟩
  · cases left <;> cases leftKind
    cases right <;> cases rightKind
    exact order_integers _ _
  · cases left <;> cases leftKind
    cases right <;> cases rightKind
    exact order_texts _ _

theorem order_of_not_comparable {left right : Value} (apart : ¬ Comparable left right) :
    left.order right = .error (if left.kind = .integer then right.kind else left.kind) := by
  cases left with
  | integer first =>
      cases right with
      | integer second => exact absurd (.inl ⟨rfl, rfl⟩) apart
      | text contents | globalRef name => rfl
  | text first =>
      cases right with
      | text second => exact absurd (.inr ⟨rfl, rfl⟩) apart
      | integer number | globalRef name => rfl
  | globalRef name => rfl

end Value

namespace BinaryOperator

def Holds (operator : BinaryOperator) (left right : Value) : Prop :=
  operator.apply left right = .ok (.integer 1)

def orderings : List BinaryOperator := [.lt, .le, .gt, .ge]

/-- What an operator looks for in an order. -/
def wanted : BinaryOperator → Ordering → Bool
  | .lt => Ordering.isLT
  | .le => Ordering.isLE
  | .gt => Ordering.isGT
  | .ge => Ordering.isGE
  | _ => fun _ => false

variable {operator : BinaryOperator} {left right : Value}

theorem apply_ordering (member : operator ∈ orderings) (left right : Value) :
    operator.apply left right = operator.onOrder operator.wanted left right := by
  simp only [orderings, List.mem_cons, List.not_mem_nil, or_false] at member
  rcases member with rfl | rfl | rfl | rfl <;> rfl

theorem apply_of_comparable (member : operator ∈ orderings) (comparable : left.Comparable right) :
    ∃ order, Value.Ordered left right order ∧
      operator.apply left right = .ok (.ofBool (operator.wanted order)) := by
  obtain ⟨order, found, ordered⟩ := Value.order_of_comparable comparable
  refine ⟨order, ordered, ?_⟩
  rw [apply_ordering member, onOrder, found]

theorem apply_of_not_comparable (member : operator ∈ orderings) (apart : ¬ left.Comparable right) :
    operator.apply left right = .error (.typeMismatch .comparable
      (if left.kind = .integer then right.kind else left.kind) (.operator operator)) := by
  rw [apply_ordering member, onOrder, Value.order_of_not_comparable apart]

theorem of_bool_eq_one_iff {truth : Bool} : Value.ofBool truth = .integer 1 ↔ truth = true := by
  cases truth <;> decide

theorem holds_iff (member : operator ∈ orderings) :
    operator.Holds left right ↔
      left.Comparable right ∧ (operator.wanted .lt = true ∧ left.Less right ∨
        operator.wanted .eq = true ∧ left = right ∨
        operator.wanted .gt = true ∧ right.Less left) := by
  by_cases comparable : left.Comparable right
  · obtain ⟨order, ordered, computed⟩ := apply_of_comparable member comparable
    rw [Holds, computed, Except.ok.injEq, of_bool_eq_one_iff]
    constructor
    · intro truth
      refine ⟨comparable, ?_⟩
      cases ordered with
      | less less => exact .inl ⟨truth, less⟩
      | same => exact .inr (.inl ⟨truth, rfl⟩)
      | greater less => exact .inr (.inr ⟨truth, less⟩)
    · intro holds
      rcases holds.2 with ⟨truth, less⟩ | ⟨truth, rfl⟩ | ⟨truth, less⟩
      · rw [ordered.unique (.less less)]
        exact truth
      · rw [ordered.unique (.same left)]
        exact truth
      · rw [ordered.unique (.greater less)]
        exact truth
  · rw [Holds, apply_of_not_comparable member comparable]
    simp [comparable]

theorem holds_lt_iff : BinaryOperator.lt.Holds left right ↔ left.Less right := by
  rw [holds_iff (by decide)]
  simp only [wanted, Ordering.isLT, true_and, false_and, or_false, Bool.false_eq_true]
  exact ⟨fun holds => holds.2, fun less => ⟨less.comparable, less⟩⟩

theorem holds_gt_iff : BinaryOperator.gt.Holds left right ↔ right.Less left := by
  rw [holds_iff (by decide)]
  simp only [wanted, Ordering.isGT, true_and, false_and, false_or, Bool.false_eq_true]
  exact ⟨fun holds => holds.2, fun less => ⟨less.comparable.symm, less⟩⟩

theorem holds_eq_iff : BinaryOperator.eq.Holds left right ↔ left = right := by
  rw [Holds, apply, Except.ok.injEq, of_bool_eq_one_iff, decide_eq_true_eq]

theorem holds_le_iff (comparable : left.Comparable right) :
    BinaryOperator.le.Holds left right ↔ left.Less right ∨ left = right := by
  rw [holds_iff (by decide)]
  simp [wanted, Ordering.isLE, comparable]

theorem holds_ge_iff (comparable : left.Comparable right) :
    BinaryOperator.ge.Holds left right ↔ left = right ∨ right.Less left := by
  rw [holds_iff (by decide)]
  simp [wanted, Ordering.isGE, comparable]

theorem zero_or_one_of_comparable (member : operator ∈ orderings)
    (comparable : left.Comparable right) :
    operator.Holds left right ∨ operator.apply left right = .ok (.integer 0) := by
  obtain ⟨order, -, computed⟩ := apply_of_comparable member comparable
  rw [Holds, computed]
  cases operator.wanted order with
  | true => exact .inl rfl
  | false => exact .inr rfl

def OneOf (first second third : Prop) : Prop :=
  first ∧ ¬ second ∧ ¬ third ∨ ¬ first ∧ second ∧ ¬ third ∨ ¬ first ∧ ¬ second ∧ third

theorem one_of_comparable (comparable : left.Comparable right) :
    OneOf (BinaryOperator.lt.Holds left right) (BinaryOperator.eq.Holds left right)
      (BinaryOperator.gt.Holds left right) := by
  rw [holds_lt_iff, holds_eq_iff, holds_gt_iff]
  obtain ⟨order, -, ordered⟩ := Value.order_of_comparable comparable
  cases ordered with
  | less less =>
      refine .inl ⟨less, ?_, fun other => Value.Less.irrefl _ (less.trans other)⟩
      rintro rfl
      exact Value.Less.irrefl _ less
  | same => exact .inr (.inl ⟨Value.Less.irrefl _, rfl, Value.Less.irrefl _⟩)
  | greater less =>
      refine .inr (.inr ⟨fun other => Value.Less.irrefl _ (less.trans other), ?_, less⟩)
      rintro rfl
      exact Value.Less.irrefl _ less

theorem ge_eq_le_swapped (comparable : left.Comparable right) :
    BinaryOperator.ge.apply left right = BinaryOperator.le.apply right left := by
  have same : BinaryOperator.ge.Holds left right ↔ BinaryOperator.le.Holds right left := by
    rw [holds_ge_iff comparable, holds_le_iff comparable.symm, or_comm, eq_comm]
  have swapped := @zero_or_one_of_comparable .le _ _ (by decide) comparable.symm
  rcases @zero_or_one_of_comparable .ge _ _ (by decide) comparable with one | zero
  · exact one.trans (same.1 one).symm
  · rcases swapped with one | other
    · exact (same.2 one).trans one.symm
    · exact zero.trans other.symm

/-- The comparisons form one order for each kind of values. Equality asks for the same kind and the
same contents and never faults. The others fault exactly if the operands are neither two integers
nor two texts; where they do not, one of less, equal and greater holds, and the rest follows from
these. Integers are ordered as numbers, and texts by code points, which is the byte order of their
UTF-8 encodings. -/
theorem comparisons_follow_one_order (left right third : Value) :
    (BinaryOperator.eq.Holds left right ↔
      (∃ number, left = .integer number ∧ right = .integer number) ∨
      (∃ contents, left = .text contents ∧ right = .text contents) ∨
      ∃ name, left = .globalRef name ∧ right = .globalRef name) ∧
    (BinaryOperator.eq.Holds left right ∨ BinaryOperator.eq.apply left right = .ok (.integer 0)) ∧
    (∀ operator ∈ orderings,
      ((∃ fault, operator.apply left right = .error fault) ↔ ¬ left.Comparable right) ∧
      ∀ fault, operator.apply left right = .error fault →
        ∃ actual, fault = .typeMismatch .comparable actual (.operator operator)) ∧
    (left.Comparable right →
      (∀ operator ∈ orderings, operator.Holds left right ∨
        operator.apply left right = .ok (.integer 0)) ∧
      OneOf (BinaryOperator.lt.Holds left right) (BinaryOperator.eq.Holds left right)
        (BinaryOperator.gt.Holds left right) ∧
      (BinaryOperator.le.Holds left right ↔
        BinaryOperator.lt.Holds left right ∨ BinaryOperator.eq.Holds left right) ∧
      BinaryOperator.ge.apply left right = BinaryOperator.le.apply right left) ∧
    (BinaryOperator.lt.Holds left right → BinaryOperator.lt.Holds right third →
      BinaryOperator.lt.Holds left third) ∧
    (∀ first second : Integer,
      BinaryOperator.lt.Holds (.integer first) (.integer second) ↔ first.toInt < second.toInt) ∧
    ∀ first second : String,
      (BinaryOperator.lt.Holds (.text first) (.text second) ↔
        Text.Precedes first.toList second.toList) ∧
      (first.toUTF8.data.toList < second.toUTF8.data.toList ↔
        Text.Precedes first.toList second.toList) ∧
      (second ≠ "" → BinaryOperator.lt.Holds (.text first) (.text (first ++ second))) := by
  refine ⟨?_, ?_, ?_, ?_, ?_, ?_, ?_⟩
  · rw [holds_eq_iff]
    constructor
    · rintro rfl
      cases left with
      | integer number => exact .inl ⟨number, rfl, rfl⟩
      | text contents => exact .inr (.inl ⟨contents, rfl, rfl⟩)
      | globalRef name => exact .inr (.inr ⟨name, rfl, rfl⟩)
    · rintro (⟨number, rfl, rfl⟩ | ⟨contents, rfl, rfl⟩ | ⟨name, rfl, rfl⟩) <;> rfl
  · rw [Holds, apply]
    cases decide (left = right) with
    | true => exact .inl rfl
    | false => exact .inr rfl
  · intro operator member
    by_cases comparable : left.Comparable right
    · obtain ⟨order, -, computed⟩ := apply_of_comparable member comparable
      simp [computed, comparable]
    · rw [apply_of_not_comparable member comparable]
      simp [comparable]
  · intro comparable
    refine ⟨fun operator member => zero_or_one_of_comparable member comparable,
      one_of_comparable comparable, ?_, ge_eq_le_swapped comparable⟩
    rw [holds_le_iff comparable, holds_lt_iff, holds_eq_iff]
  · rw [holds_lt_iff, holds_lt_iff, holds_lt_iff]
    exact Value.Less.trans
  · intro first second
    rw [holds_lt_iff, Value.less_integers_iff]
  · intro first second
    refine ⟨?_, Text.utf8_bytes_lt_iff, ?_⟩
    · rw [holds_lt_iff, Value.less_texts_iff]
    · intro nonempty
      rw [holds_lt_iff, Value.less_texts_iff, String.toList_append]
      apply Text.precedes_append
      simpa using nonempty

/-- A character beyond the basic plane comes after all characters in it, and a text cannot be
compared with a global. -/
theorem comparisons_beyond_the_basic_plane :
    BinaryOperator.le ∈ orderings ∧ Value.Comparable (.text "\uffff") (.text "😀") ∧
      BinaryOperator.lt.Holds (.text "\uffff") (.text "😀") ∧
      "\uffff".toUTF8.data.toList < "😀".toUTF8.data.toList ∧
      BinaryOperator.ge.apply (.text "\uffff") (.text "😀") =
        BinaryOperator.le.apply (.text "😀") (.text "\uffff") ∧
      ∃ fault, BinaryOperator.le.apply (.text "\uffff") (.globalRef "f") = .error fault := by
  have member : BinaryOperator.le ∈ orderings := by decide
  have comparable : Value.Comparable (.text "\uffff") (.text "😀") := .inr ⟨rfl, rfl⟩
  have apart : ¬ Value.Comparable (.text "\uffff") (.globalRef "f") := by
    rintro (⟨integer, -⟩ | ⟨-, text⟩)
    · cases integer
    · cases text
  have before := Text.lt_iff_precedes.1 (show "\uffff" < "😀" by decide)
  have texts := comparisons_follow_one_order (.text "\uffff") (.text "😀") (.text "")
  have mixed := comparisons_follow_one_order (.text "\uffff") (.globalRef "f") (.text "")
  have ordered := texts.2.2.2.2.2.2 "\uffff" "😀"
  exact ⟨member, comparable, ordered.1.2 before, ordered.2.1.2 before,
    (texts.2.2.2.1 comparable).2.2.2, (mixed.2.2.1 _ member).1.2 apart⟩

end BinaryOperator

end ThreeAddress
