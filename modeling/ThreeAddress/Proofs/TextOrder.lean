import Mathlib.Algebra.Group.Nat.Defs
import ThreeAddress.NameMap

/-!
The order of texts. One text comes before another by the code points of their characters. Comparing
their UTF-8 encodings byte by byte gives the same order, because the encodings of two characters
differ at some byte in the same direction as their code points.
-/

namespace ThreeAddress

namespace Text

/-- One text comes before another: it ends sooner, or it has the lower code point where they first
differ. -/
def Precedes (first second : List Char) : Prop :=
  List.Lex (fun left right => left.toNat < right.toNat) first second

theorem utf8_bytes_eq (text : String) :
    text.toUTF8.data.toList = text.toList.flatMap String.utf8EncodeChar := by
  rw [String.toUTF8_eq_toByteArray, ← String.utf8Encode_toList, List.utf8Encode,
    List.data_toByteArray]

theorem byte_cons_lt {low high : Nat} {left right : List UInt8} (small : high < 256)
    (less : low < high ∨ low = high ∧ left < right) :
    UInt8.ofNat low :: left < UInt8.ofNat high :: right := by
  rcases less with lower | ⟨rfl, later⟩
  · exact .rel ((UInt8.ofNat_lt_iff_lt (Nat.lt_trans lower small) small).2 lower)
  · exact .cons later

def continued (count code : Nat) (rest : List UInt8) : List UInt8 :=
  match count with
  | 0 => rest
  | count + 1 => UInt8.ofNat (code / 64 ^ count % 64 + 128) :: continued count code rest

theorem continued_lt {count low high : Nat} (less : low % 64 ^ count < high % 64 ^ count)
    (left right : List UInt8) : continued count low left < continued count high right := by
  induction count with
  | zero =>
      rw [Nat.pow_zero, Nat.mod_one, Nat.mod_one] at less
      exact absurd less (Nat.lt_irrefl 0)
  | succ count induction =>
      rw [Nat.pow_succ, Nat.mod_mul, Nat.mod_mul] at less
      have lowSmall : low % 64 ^ count < 64 ^ count := Nat.mod_lt _ (Nat.pow_pos (by decide))
      have highSmall : high % 64 ^ count < 64 ^ count := Nat.mod_lt _ (Nat.pow_pos (by decide))
      apply byte_cons_lt (by omega)
      rcases Nat.lt_trichotomy (low / 64 ^ count % 64) (high / 64 ^ count % 64) with
        lower | same | upper
      · exact .inl (by omega)
      · rw [same] at less
        exact .inr ⟨by omega, induction (by omega)⟩
      · have next := Nat.mul_le_mul_left (64 ^ count) (Nat.succ_le_of_lt upper)
        rw [Nat.mul_succ] at next
        omega

/-- How many bytes follow the first one, and what is added to the highest bits of the code point to
make up the first one. -/
inductive Encoded : Nat → Nat → Nat → Prop where
  | single {code : Nat} (small : code ≤ 0x7f) : Encoded code 0 0
  | double {code : Nat} (above : 0x7f < code) (small : code ≤ 0x7ff) : Encoded code 1 192
  | triple {code : Nat} (above : 0x7ff < code) (small : code ≤ 0xffff) : Encoded code 2 224
  | quadruple {code : Nat} (above : 0xffff < code) (small : code < 0x110000) : Encoded code 3 240

theorem exists_encoded (c : Char) :
    ∃ count base, Encoded c.toNat count base ∧ ∀ rest, String.utf8EncodeChar c ++ rest =
      UInt8.ofNat (c.toNat / 64 ^ count + base) :: continued count c.toNat rest := by
  have valid : c.toNat < 0x110000 := by
    rcases c.valid with low | high
    · exact Nat.lt_trans low (by decide)
    · exact high.2
  simp only [String.utf8EncodeChar, Char.toNat_val]
  split
  · refine ⟨0, 0, .single (by omega), fun rest => ?_⟩
    simp [continued]
  · split
    · refine ⟨1, 192, .double (by omega) (by omega), fun rest => ?_⟩
      have whole : c.toNat / 64 % 32 = c.toNat / 64 := Nat.mod_eq_of_lt (by omega)
      simp [continued, whole]
    · split
      · refine ⟨2, 224, .triple (by omega) (by omega), fun rest => ?_⟩
        have whole : c.toNat / 4096 % 16 = c.toNat / 4096 := Nat.mod_eq_of_lt (by omega)
        simp [continued, whole]
      · refine ⟨3, 240, .quadruple (by omega) valid, fun rest => ?_⟩
        have whole : c.toNat / 262144 % 8 = c.toNat / 262144 := Nat.mod_eq_of_lt (by omega)
        simp [continued, whole]

theorem Encoded.first_lt {code count base : Nat} (encoded : Encoded code count base) :
    code / 64 ^ count + base < 256 := by
  cases encoded <;> omega

/-- The greater code point has the greater first byte, or the first bytes agree and as many bytes
follow with lower bits that are greater. -/
theorem Encoded.compare {low high count other base start : Nat} (lower : Encoded low count base)
    (upper : Encoded high other start) (less : low < high) :
    low / 64 ^ count + base < high / 64 ^ other + start ∨
      count = other ∧ low / 64 ^ count + base = high / 64 ^ other + start ∧
        low % 64 ^ count < high % 64 ^ other := by
  cases lower <;> cases upper <;> omega

/-- The encodings of two characters differ at some byte in the direction of their code points, so
that what comes after them does not matter. -/
theorem encode_char_lt {lower upper : Char} (less : lower.toNat < upper.toNat)
    (left right : List UInt8) :
    String.utf8EncodeChar lower ++ left < String.utf8EncodeChar upper ++ right := by
  obtain ⟨count, base, low, encoded⟩ := exists_encoded lower
  obtain ⟨other, start, high, otherEncoded⟩ := exists_encoded upper
  rw [encoded, otherEncoded]
  apply byte_cons_lt high.first_lt
  rcases low.compare high less with first | ⟨rfl, first, later⟩
  · exact .inl first
  · exact .inr ⟨first, continued_lt later left right⟩

theorem lt_iff_precedes {first second : String} :
    first < second ↔ Precedes first.toList second.toList := Iff.rfl

theorem precedes_append {text rest : List Char} (nonempty : rest ≠ []) :
    Precedes text (text ++ rest) := by
  induction text with
  | nil =>
      cases rest with
      | nil => exact absurd rfl nonempty
      | cons c rest => exact .nil
  | cons c text induction => exact .cons induction

theorem lt_or_eq_or_gt (first second : String) :
    first < second ∨ first = second ∨ second < first := by
  by_cases less : first < second
  · exact .inl less
  · by_cases same : first = second
    · exact .inr (.inl same)
    · exact .inr (.inr (NameMap.name_lt_of_not_lt less same))

theorem encode_lt_of_precedes {first second : List Char} (before : Precedes first second) :
    first.flatMap String.utf8EncodeChar < second.flatMap String.utf8EncodeChar := by
  induction before with
  | @nil c rest =>
      obtain ⟨count, base, -, encoded⟩ := exists_encoded c
      rw [List.flatMap_cons, encoded]
      exact .nil
  | rel less =>
      rw [List.flatMap_cons, List.flatMap_cons]
      exact encode_char_lt less _ _
  | cons later induction =>
      rw [List.flatMap_cons, List.flatMap_cons]
      exact List.append_left_lt induction

/-- The byte order of the encodings is the order of the texts. Since no two texts are unordered, it
is enough that encoding keeps the order. -/
theorem utf8_bytes_lt_iff {first second : String} :
    first.toUTF8.data.toList < second.toUTF8.data.toList ↔
      Precedes first.toList second.toList := by
  rw [utf8_bytes_eq, utf8_bytes_eq]
  constructor
  · intro less
    rcases lt_or_eq_or_gt first second with before | rfl | after
    · exact lt_iff_precedes.1 before
    · exact absurd less (List.lt_irrefl _)
    · exact absurd less (List.lt_asymm (encode_lt_of_precedes (lt_iff_precedes.1 after)))
  · exact encode_lt_of_precedes

end Text

end ThreeAddress
