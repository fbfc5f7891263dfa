import ThreeAddress.Declaration
import ThreeAddress.Proofs.Lexemes

/-!
Values as text. `Value.Spells` says how a value can be written, without reference to how it is read:
an integer in decimals with an optional sign, any text between quotes, a global behind its `@`.
Reading accepts exactly these spellings, and the written form of a value is one of them, so what is
printed can be passed back.
-/

namespace ThreeAddress

namespace Text

inductive Numeral : List Char → Int → Prop where
  | unsigned {digits : List Char} (nonempty : digits ≠ [])
      (decimal : ∀ c ∈ digits, c.isDigit = true) : Numeral digits (Nat.ofDigitChars 10 digits 0)
  | plus {digits : List Char} (nonempty : digits ≠ [])
      (decimal : ∀ c ∈ digits, c.isDigit = true) :
      Numeral ('+' :: digits) (Nat.ofDigitChars 10 digits 0)
  | minus {digits : List Char} (nonempty : digits ≠ [])
      (decimal : ∀ c ∈ digits, c.isDigit = true) :
      Numeral ('-' :: digits) (-Nat.ofDigitChars 10 digits 0)

theorem read_natural_eq_some_iff {digits : List Char} {number : Nat} :
    readNatural digits = some number ↔
      digits ≠ [] ∧ (∀ c ∈ digits, c.isDigit = true) ∧ Nat.ofDigitChars 10 digits 0 = number := by
  rw [readNatural]
  split
  · rename_i valid
    rw [Bool.and_eq_true, Bool.not_eq_true', List.isEmpty_eq_false_iff, List.all_eq_true] at valid
    rw [Option.some.injEq]
    exact ⟨fun same => ⟨valid.1, valid.2, same⟩, fun read => read.2.2⟩
  · rename_i invalid
    rw [Bool.and_eq_true, Bool.not_eq_true', List.isEmpty_eq_false_iff, List.all_eq_true] at invalid
    constructor
    · intro found
      cases found
    · intro read
      exact absurd ⟨read.1, read.2.1⟩ invalid

/-- A run of digits starts with no sign. -/
theorem read_integer_of_decimal {digits : List Char} (decimal : ∀ c ∈ digits, c.isDigit = true) :
    readInteger digits = (readNatural digits).map Int.ofNat := by
  unfold readInteger
  split
  · exact absurd (decimal _ List.mem_cons_self) (by decide)
  · exact absurd (decimal _ List.mem_cons_self) (by decide)
  · rfl

theorem read_integer_eq_some_iff {text : List Char} {number : Int} :
    readInteger text = some number ↔ Numeral text number := by
  constructor
  · intro read
    unfold readInteger at read
    split at read <;> obtain ⟨magnitude, found, rfl⟩ := Option.map_eq_some_iff.1 read <;>
      obtain ⟨nonempty, decimal, rfl⟩ := read_natural_eq_some_iff.1 found
    · exact .plus nonempty decimal
    · exact .minus nonempty decimal
    · exact .unsigned nonempty decimal
  · intro numeral
    cases numeral with
    | unsigned nonempty decimal =>
        rw [read_integer_of_decimal decimal, read_natural_eq_some_iff.2 ⟨nonempty, decimal, rfl⟩]
        rfl
    | plus nonempty decimal | minus nonempty decimal =>
        rw [readInteger, read_natural_eq_some_iff.2 ⟨nonempty, decimal, rfl⟩]
        rfl

theorem numeral_render_integer (number : Int) : Numeral (renderInteger number).toList number := by
  rw [← read_integer_eq_some_iff]
  cases number with
  | ofNat magnitude =>
      have read := read_natural_repr magnitude
      have decimal := (read_natural_eq_some_iff.1 read).2.1
      rw [renderInteger, read_integer_of_decimal decimal, read]
      rfl
  | negSucc magnitude =>
      rw [renderInteger, String.toList_append]
      change (readNatural (magnitude + 1).repr.toList).map _ = _
      rw [read_natural_repr]
      rfl

theorem Numeral.head {text : List Char} {number : Int} (numeral : Numeral text number) :
    ∃ first rest, text = first :: rest ∧ (first.isDigit = true ∨ first = '+' ∨ first = '-') := by
  cases numeral with
  | unsigned nonempty decimal =>
      obtain ⟨first, rest, rfl⟩ := List.exists_cons_of_ne_nil nonempty
      exact ⟨first, rest, rfl, .inl (decimal first List.mem_cons_self)⟩
  | plus => exact ⟨_, _, rfl, .inr (.inl rfl)⟩
  | minus => exact ⟨_, _, rfl, .inr (.inr rfl)⟩

/-- Neither a quote nor an `@` starts a numeral. -/
theorem read_integer_of_marked {mark : Char} (marked : mark = Lexeme.quote ∨ mark = '@')
    (rest : List Char) : readInteger (mark :: rest) = none := by
  rw [Option.eq_none_iff_forall_ne_some]
  intro number read
  obtain ⟨first, others, same, starts⟩ := (read_integer_eq_some_iff.1 read).head
  cases same
  rcases marked with rfl | rfl <;> rcases starts with digit | plus | minus <;> contradiction

end Text

namespace Value

inductive Spells : List Char → Value → Prop where
  | integer {text : List Char} {number : Integer} (numeral : Text.Numeral text number.toInt) :
      Spells text (.integer number)
  | text (contents : String) :
      Spells (Lexeme.quote :: (contents.toList ++ [Lexeme.quote])) (.text contents)
  | globalRef {name : String} (valid : Text.isIdentifier name.toList = true) :
      Spells ('@' :: name.toList) (.globalRef name)

theorem unquote_eq_some_iff {text contents : List Char} :
    unquote? text = some contents ↔ text = Lexeme.quote :: (contents ++ [Lexeme.quote]) := by
  constructor
  · intro found
    unfold unquote? at found
    split at found
    · rename_i rest
      split at found
      · rename_i closed
        cases found
        obtain ⟨inner, rfl⟩ := List.getLast?_eq_some_iff.1 closed
        rw [List.dropLast_concat]
        rfl
      · cases found
    · cases found
  · intro same
    simp [same, unquote?, Lexeme.quote]

/-- Reading accepts exactly the spellings. The three kinds do not overlap, so it does not matter in
which order they are tried. -/
theorem read_eq_ok_iff {text : String} {value : Value} :
    read text = .ok value ↔ Spells text.toList value := by
  constructor
  · intro accepted
    unfold read at accepted
    dsimp only at accepted
    split at accepted
    · rename_i number found
      cases accepted
      obtain ⟨exact, read, inside⟩ := Option.bind_eq_some_iff.1 found
      rw [← Integer.of_int_eq_some_iff.1 inside, Text.read_integer_eq_some_iff] at read
      exact .integer read
    · split at accepted
      · rename_i contents unquoted
        cases accepted
        rw [unquote_eq_some_iff.1 unquoted]
        have spelled := Spells.text (String.ofList contents)
        rwa [String.toList_ofList] at spelled
      · rename_i name _ global
        split at accepted
        · rename_i valid
          cases accepted
          rw [← String.toList_ofList (l := name)] at valid
          have spelled := Spells.globalRef valid
          rwa [String.toList_ofList, ← global] at spelled
        · cases accepted
      · cases accepted
  · intro spelled
    rw [read]
    generalize text.toList = letters at spelled
    cases spelled with
    | integer numeral =>
        rw [Text.read_integer_eq_some_iff.2 numeral, Option.bind_some, Integer.of_int_to_int]
    | text contents =>
        have unquoted := unquote_eq_some_iff.2 (rfl : Lexeme.quote :: (contents.toList ++ _) = _)
        rw [Text.read_integer_of_marked (.inl rfl)]
        dsimp only [Option.bind_none]
        rw [unquoted]
        dsimp only
        rw [String.ofList_toList]
    | globalRef valid =>
        rw [Text.read_integer_of_marked (.inr rfl)]
        exact (if_pos valid).trans (by rw [String.ofList_toList])

theorem Spells.render {text : List Char} {value : Value} (spelled : Spells text value) :
    Spells value.render.toList value := by
  cases spelled with
  | integer numeral => exact .integer (Text.numeral_render_integer _)
  | text contents =>
      have written := Spells.text contents
      simpa [Value.render, Lexeme.quote] using written
  | globalRef valid =>
      have written := Spells.globalRef valid
      simpa [Value.render] using written

theorem spelled_integer_iff {text : List Char} :
    (∃ number, Spells text (.integer number)) ↔
      ∃ number, Text.Numeral text number ∧
        -0x8000000000000000 ≤ number ∧ number < 0x8000000000000000 := by
  constructor
  · intro spelled
    obtain ⟨number, spelled⟩ := spelled
    have lower := Int64.le_toInt number
    have upper := Int64.toInt_lt number
    cases spelled with
    | integer numeral => exact ⟨_, numeral, by omega, by omega⟩
  · intro written
    obtain ⟨value, numeral, lower, upper⟩ := written
    refine ⟨Int64.ofInt value, .integer ?_⟩
    rwa [Int64.toInt_ofInt_of_le (by omega) (by omega)]

theorem spelled_text_iff {text : String} :
    (∃ contents, Spells text.toList (.text contents)) ↔
      2 ≤ text.length ∧ text.toList.head? = some Lexeme.quote ∧
        text.toList.getLast? = some Lexeme.quote := by
  rw [← String.length_toList]
  generalize text.toList = letters
  constructor
  · intro spelled
    obtain ⟨contents, spelled⟩ := spelled
    cases spelled with
    | text =>
        refine ⟨by simp, rfl, ?_⟩
        rw [← List.cons_append, List.getLast?_concat]
  · intro closed
    obtain ⟨long, first, last⟩ := closed
    obtain ⟨rest, rfl⟩ := List.head?_eq_some_iff.1 first
    -- A lone quote opens a text and does not close it.
    have more : rest ≠ [] := by
      intro empty
      subst empty
      exact absurd long (by decide)
    rw [List.getLast?_cons_of_ne_nil more] at last
    obtain ⟨inner, rfl⟩ := List.getLast?_eq_some_iff.1 last
    have spelled := Spells.text (String.ofList inner)
    rw [String.toList_ofList] at spelled
    exact ⟨_, spelled⟩

theorem spelled_global_iff {text : List Char} :
    (∃ name, Spells text (.globalRef name)) ↔
      ∃ name, text = '@' :: name ∧ Text.isIdentifier name = true := by
  constructor
  · intro spelled
    obtain ⟨name, spelled⟩ := spelled
    cases spelled with
    | globalRef valid => exact ⟨_, rfl, valid⟩
  · intro global
    obtain ⟨name, rfl, valid⟩ := global
    rw [← String.toList_ofList (l := name)] at valid ⊢
    exact ⟨_, .globalRef valid⟩

/-- What is printed can be passed back: every integer, every text and every global with an
identifier for a name is read from its written form; so is every value that is read from some text,
however it was spelled there; and what can be read is exactly an integer in range in decimals with
an optional sign, a text between two quotes, and an identifier behind an `@`. -/
theorem written_values_are_read_back :
    (∀ number : Integer, read (Value.integer number).render = .ok (.integer number)) ∧
    (∀ contents : String, read (Value.text contents).render = .ok (.text contents)) ∧
    (∀ name : String, Text.isIdentifier name.toList = true →
      read (Value.globalRef name).render = .ok (.globalRef name)) ∧
    (∀ text value, read text = .ok value → read value.render = .ok value) ∧
    ∀ text, (∃ value, read text = .ok value) ↔
      (∃ number, Text.Numeral text.toList number ∧
        -0x8000000000000000 ≤ number ∧ number < 0x8000000000000000) ∨
      (2 ≤ text.length ∧ text.toList.head? = some Lexeme.quote ∧
        text.toList.getLast? = some Lexeme.quote) ∨
      ∃ name, text.toList = '@' :: name ∧ Text.isIdentifier name = true := by
  have back : ∀ {text : List Char} {value : Value}, Spells text value →
      read value.render = .ok value := fun spelled => read_eq_ok_iff.2 spelled.render
  refine ⟨fun number => back (.integer (Text.numeral_render_integer _)),
    fun contents => back (.text contents), fun name valid => back (.globalRef valid),
    fun text value accepted => back (read_eq_ok_iff.1 accepted), ?_⟩
  intro text
  rw [← spelled_integer_iff, ← spelled_text_iff, ← spelled_global_iff]
  simp only [read_eq_ok_iff]
  constructor
  · intro spelled
    obtain ⟨value, spelled⟩ := spelled
    cases value with
    | integer number => exact .inl ⟨number, spelled⟩
    | text contents => exact .inr (.inl ⟨contents, spelled⟩)
    | globalRef name => exact .inr (.inr ⟨name, spelled⟩)
  · intro spelled
    rcases spelled with ⟨number, spelled⟩ | ⟨contents, spelled⟩ | ⟨name, spelled⟩
    · exact ⟨_, spelled⟩
    · exact ⟨_, spelled⟩
    · exact ⟨_, spelled⟩

/-- Signs, leading zeros and the least integer; a text that is itself a quote; and a lone quote,
which is refused. -/
theorem unusual_spellings_are_read_back :
    read "-0009223372036854775808" = .ok (.integer (-9223372036854775808)) ∧
      read (Value.integer (-9223372036854775808)).render = .ok (.integer (-9223372036854775808)) ∧
      read (Value.text "'").render = .ok (.text "'") ∧
      read (Value.globalRef "_0").render = .ok (.globalRef "_0") ∧
      ¬ ∃ value, read "'" = .ok value := by
  obtain ⟨-, texts, globals, again, grammar⟩ := written_values_are_read_back
  have least : read "-0009223372036854775808" = .ok (.integer (-9223372036854775808)) := by
    decide +kernel
  refine ⟨least, again _ _ least, texts "'", globals "_0" (by decide), ?_⟩
  rw [grammar "'"]
  intro accepted
  rcases accepted with ⟨number, numeral, -⟩ | ⟨long, -⟩ | ⟨name, global, -⟩
  · rw [← Text.read_integer_eq_some_iff] at numeral
    cases numeral
  · exact absurd long (by decide)
  · cases global

end Value

end ThreeAddress
