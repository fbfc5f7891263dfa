import ThreeAddress.Image.Wire

/-!
The wire format reads back. A reader that meets what was written for a value, with whatever behind
it, takes off exactly those bytes and gives the value. This holds of every header in each of its
widths, and from there of numbers, texts, lists, optional values, records and variants.
-/

namespace ThreeAddress.Wire

def Reads {α : Type} (read : Reader α) (bytes : Bytes) (value : α) : Prop :=
  ∀ rest, read (bytes ++ rest) = some (value, rest)

def lengthBound : Nat := 0x100000000

def TextFits (text : String) : Prop := text.utf8ByteSize < lengthBound

instance (text : String) : Decidable (TextFits text) := Nat.decLt _ _

/-! ### Headers -/

theorem big_endian_one {code : Nat} (bounded : code < 0x100) :
    bigEndian 1 code = [UInt8.ofNat code] := by
  simp [bigEndian, Nat.mod_eq_of_lt bounded]

/-- A header that is a single byte is read by the code of that byte. -/
theorem read_header_code (code : Nat) (bounded : code < 0x100) (rest : Bytes) :
    ∃ byte : UInt8, byte.toNat = code ∧ bigEndian 1 code ++ rest = byte :: rest :=
  ⟨UInt8.ofNat code, UInt8.toNat_ofNat_of_lt bounded, by rw [big_endian_one bounded]; rfl⟩

theorem reads_natural_header (number : Nat) (bounded : number < capacity 8) :
    Reads readHeader (writeNatural number) (.unsigned number) := by
  intro rest
  unfold writeNatural
  split
  · rename_i small
    obtain ⟨byte, code, written⟩ := read_header_code number (by omega) rest
    simp only [written, readHeader, code, if_pos small]
  · split
    · rename_i fits
      exact @read_sized_big_endian 1 _ fits .unsigned rest
    · split
      · rename_i fits
        exact @read_sized_big_endian 2 _ fits .unsigned rest
      · split
        · rename_i fits
          exact @read_sized_big_endian 4 _ fits .unsigned rest
        · exact @read_sized_big_endian 8 _ bounded .unsigned rest

/-- A negative number is the one that its two's complement stands for. -/
theorem of_complement_eq (width : Nat) {number : Int} (low : -capacity width ≤ 2 * number)
    (negative : number < 0) :
    ofComplement width (number + capacity width).toNat = number := by
  have high : ¬ (number + capacity width).toNat < capacity width / 2 := by omega
  rw [ofComplement, if_neg high, Int.ofNat_eq_natCast]
  omega

theorem reads_complement (width : Nat) {number : Int} (low : -capacity width ≤ 2 * number)
    (negative : number < 0) (rest : Bytes) :
    readSigned width (complement width number ++ rest) = some (.signed number, rest) := by
  rw [readSigned, complement, read_sized_big_endian (by omega), of_complement_eq width low negative]

theorem reads_negative_header {number : Int} (low : -capacity 8 ≤ 2 * number)
    (negative : number < 0) : Reads readHeader (writeInteger number) (.signed number) := by
  intro rest
  rw [writeInteger, if_neg (by omega)]
  split
  · rename_i small
    have one : capacity 1 = 0x100 := rfl
    obtain ⟨byte, code, written⟩ :=
      read_header_code (number + capacity 1).toNat (by omega) rest
    have signed := of_complement_eq 1 (by omega) negative
    simp only [complement, written, readHeader, code, signed]
    rw [if_neg (by omega), if_neg (by omega), if_neg (by omega), if_neg (by omega),
      if_pos (by omega)]
  · split
    · exact reads_complement 1 (by rw [show capacity 1 = 0x100 from rfl]; omega) negative rest
    · split
      · exact reads_complement 2 (by rw [show capacity 2 = 0x10000 from rfl]; omega)
          negative rest
      · split
        · exact reads_complement 4
            (by rw [show capacity 4 = 0x100000000 from rfl]; omega) negative rest
        · exact reads_complement 8 low negative rest

theorem reads_text_header (length : Nat) (bounded : length < lengthBound) :
    Reads readHeader (writeTextHeader length) (.text length) := by
  intro rest
  unfold writeTextHeader
  split
  · rename_i small
    obtain ⟨byte, code, written⟩ := read_header_code (0xa0 + length) (by omega) rest
    simp only [written, readHeader, code]
    rw [if_neg (by omega), if_neg (by omega), if_neg (by omega), if_pos (by omega),
      Nat.add_sub_cancel_left]
  · split
    · rename_i fits
      exact @read_sized_big_endian 1 _ fits .text rest
    · split
      · rename_i fits
        exact @read_sized_big_endian 2 _ fits .text rest
      · exact @read_sized_big_endian 4 _ bounded .text rest

theorem reads_list_header (length : Nat) (bounded : length < lengthBound) :
    Reads readHeader (writeListHeader length) (.list length) := by
  intro rest
  unfold writeListHeader
  split
  · rename_i small
    obtain ⟨byte, code, written⟩ := read_header_code (0x90 + length) (by omega) rest
    simp only [written, readHeader, code]
    rw [if_neg (by omega), if_neg (by omega), if_pos (by omega), Nat.add_sub_cancel_left]
  · split
    · rename_i fits
      exact @read_sized_big_endian 2 _ fits .list rest
    · exact @read_sized_big_endian 4 _ bounded .list rest

theorem reads_map_header (length : Nat) (bounded : length < lengthBound) :
    Reads readHeader (writeMapHeader length) (.map length) := by
  intro rest
  unfold writeMapHeader
  split
  · rename_i small
    obtain ⟨byte, code, written⟩ := read_header_code (0x80 + length) (by omega) rest
    simp only [written, readHeader, code]
    rw [if_neg (by omega), if_pos (by omega), Nat.add_sub_cancel_left]
  · split
    · rename_i fits
      exact @read_sized_big_endian 2 _ fits .map rest
    · exact @read_sized_big_endian 4 _ bounded .map rest

/-! ### Values -/

theorem reads_natural {number bound : Nat} (bounded : number < bound) (wide : bound ≤ capacity 8) :
    Reads (readNatural bound) (writeNatural number) number := by
  intro rest
  simp [readNatural, reads_natural_header number (Nat.lt_of_lt_of_le bounded wide) rest, bounded]

theorem reads_integer (number : Int) (low : -capacity 8 ≤ 2 * number)
    (high : number < capacity 8) : Reads readInteger (writeInteger number) number := by
  intro rest
  by_cases negative : number < 0
  · simp [readInteger, reads_negative_header low negative rest]
  · have natural : 0 ≤ number := by omega
    have header := reads_natural_header number.toNat (by omega) rest
    rw [writeInteger, if_pos natural]
    simp [readInteger, header, Int.toNat_of_nonneg natural]

theorem reads_flag (flag : Bool) : Reads readFlag (writeFlag flag) flag := by
  intro rest
  cases flag <;> rfl

theorem reads_text {text : String} (fits : TextFits text) :
    Reads readText (writeText text) text := by
  intro rest
  have header := reads_text_header (textBytes text).length fits
  have decoded : String.fromUTF8? ⟨(textBytes text).toArray⟩ = some text := by
    rw [textBytes, String.fromUTF8?]
    exact dif_pos text.isValidUTF8
  simp [readText, writeText, header _, read_bytes_append, decoded]

theorem reads_list {α : Type} {write : α → Bytes} {read : Reader α} {values : List α}
    (bounded : values.length < lengthBound)
    (each : ∀ value ∈ values, Reads read (write value) value) :
    Reads (readList read) (writeList write values) values := by
  intro rest
  have contents := read_many_write write read values rest each
  simp [readList, writeList, reads_list_header _ bounded _, contents]

theorem reads_pair {α β : Type} {first : Reader α} {second : Reader β} {left right : Bytes}
    {before : α} {after : β} (here : Reads first left before) (there : Reads second right after) :
    Reads (readPair first second) (writeListHeader 2 ++ left ++ right) (before, after) := by
  intro rest
  simp [readPair, reads_list_header 2 (by decide) _, here _, there _]

/-- The bytes of a value that cannot be taken for nil. -/
def Present (bytes : Bytes) : Prop :=
  ∀ rest, ∃ header tail, header ≠ .nil ∧ readHeader (bytes ++ rest) = some (header, tail)

theorem present_of_header {header : Header} {first : Bytes} (reads : Reads readHeader first header)
    (other : header ≠ .nil) (body : Bytes) : Present (first ++ body) := by
  intro rest
  rw [List.append_assoc]
  exact ⟨header, body ++ rest, other, reads _⟩

theorem present_natural {number : Nat} (bounded : number < capacity 8) :
    Present (writeNatural number) := by
  rw [← List.append_nil (writeNatural number)]
  exact present_of_header (reads_natural_header number bounded) nofun []

theorem present_text {text : String} (fits : TextFits text) : Present (writeText text) :=
  present_of_header (reads_text_header (textBytes text).length fits) nofun _

theorem reads_option {α : Type} {write : α → Bytes} {read : Reader α} {value : Option α}
    (each : ∀ content ∈ value, Reads read (write content) content ∧ Present (write content)) :
    Reads (readOption read) (writeOption write value) value := by
  intro rest
  cases value with
  | none => rfl
  | some content =>
      obtain ⟨reads, present⟩ := each content rfl
      obtain ⟨header, tail, other, found⟩ := present rest
      simp only [readOption, writeOption, found, Option.bind_eq_bind, Option.bind_some, reads rest]
      cases header <;> first | exact absurd rfl other | rfl

/-! ### Records and variants -/

def NamedAt (names : List String) (name : String) (index : Nat) : Prop :=
  TextFits name ∧ names.findIdx? (· == name) = some index

instance (names : List String) (name : String) (index : Nat) :
    Decidable (NamedAt names name index) :=
  inferInstanceAs (Decidable (_ ∧ _))

theorem reads_key {name : String} (fits : TextFits name) :
    Reads readKey (writeText name) (.name (textBytes name)) := by
  intro rest
  have header := reads_text_header (textBytes name).length fits
  simp [readKey, writeText, header _, read_bytes_append]

theorem text_bytes_beq (left right : String) :
    (textBytes left == textBytes right) = (left == right) := by
  rw [Bool.eq_iff_iff, beq_iff_eq, beq_iff_eq]
  constructor
  · intro same
    apply String.toByteArray_inj.1
    exact congrArg ByteArray.mk (Array.toList_inj.1 same)
  · rintro rfl
    rfl

theorem index_of_name (names : List String) (name : String) :
    (Key.name (textBytes name)).index? names = names.findIdx? (· == name) := by
  simp only [Key.index?, text_bytes_beq]

theorem reads_map {α β : Type} {read : Reader α} {bytes : Bytes} {value : α}
    (reads : Reads read bytes value) (build : α → β) :
    Reads (fun input => (read input).map fun (value, rest) => (build value, rest)) bytes
      (build value) := by
  intro rest
  simp [reads rest]

theorem reads_fill {α Slots : Type} {read : Reader α} {bytes : Bytes} {value : α}
    (reads : Reads read bytes value) (place : α → Slots) :
    Reads (fill none read place) bytes (place value) := by
  intro rest
  simp [fill, reads rest]

inductive Fills {Slots : Type} (fields : Fields Slots) :
    Slots → List (String × Bytes) → Slots → Prop where
  | done (slots : Slots) : Fills fields slots [] slots
  | field {slots next final : Slots} {name : String} {bytes : Bytes}
      {entries : List (String × Bytes)} (index : Nat) (named : NamedAt fields.names name index)
      (reads : Reads (fields.read index slots) bytes next)
      (later : Fills fields next entries final) :
      Fills fields slots ((name, bytes) :: entries) final

theorem read_named_fields {Slots : Type} {fields : Fields Slots} {slots final : Slots}
    {entries : List (String × Bytes)} (fills : Fills fields slots entries final) (levels : Nat)
    (rest : Bytes) :
    readNamedFields fields levels entries.length slots
      (entries.flatMap (fun entry => writeText entry.1 ++ entry.2) ++ rest) =
        some (final, rest) := by
  induction fills with
  | done slots => rfl
  | field index named reads later induction =>
      simp [readNamedFields, reads_key named.1 _, index_of_name, named.2, reads _, induction]

theorem reads_record {Slots α : Type} {fields : Fields Slots} {levels : Nat} {empty final : Slots}
    {finish : Slots → Option α} {entries : List (String × Bytes)} {value : α}
    (bounded : entries.length < lengthBound) (fills : Fills fields empty entries final)
    (finished : finish final = some value) :
    Reads (readRecord fields levels empty finish) (writeRecord entries) value := by
  intro rest
  simp [readRecord, writeRecord, reads_map_header _ bounded _, read_named_fields fills levels rest,
    finished]

theorem reads_variant {α : Type} {names : List String} {data : Nat → Reader α} {name : String}
    {bytes : Bytes} {value : α} (index : Nat) (named : NamedAt names name index)
    (reads : Reads (data index) bytes value) :
    Reads (readVariant names data) (writeVariant name bytes) value := by
  intro rest
  have header := reads_map_header 1 (by decide)
  simp [readVariant, writeVariant, writeRecord, header _, reads_key named.1 _, index_of_name,
    named.2, reads _]

theorem present_variant (name : String) (bytes : Bytes) : Present (writeVariant name bytes) :=
  present_of_header (reads_map_header 1 (by decide)) nofun _

theorem reads_choice {α : Type} {names : List String} {choice : Nat → Option α} {name : String}
    {value : α} (index : Nat) (named : NamedAt names name index)
    (chosen : choice index = some value) :
    Reads (readChoice names choice) (writeText name) value := by
  intro rest
  have header := reads_text_header (textBytes name).length named.1
  have found : readHeader (writeText name ++ rest) =
      some (.text (textBytes name).length, textBytes name ++ rest) := by
    rw [writeText, List.append_assoc]
    exact header _
  simp [readChoice, found, reads_key named.1 _, index_of_name, named.2, chosen]

theorem reads_entries {α β : Type} {key : Reader α} {value : Reader β} {writeKey : α → Bytes}
    {writeContent : β → Bytes} {entries : List (α × β)} (bounded : entries.length < lengthBound)
    (each : ∀ entry ∈ entries,
      Reads key (writeKey entry.1) entry.1 ∧ Reads value (writeContent entry.2) entry.2) :
    Reads (readEntries key value)
      (writeMapHeader entries.length ++
        entries.flatMap fun entry => writeKey entry.1 ++ writeContent entry.2) entries := by
  intro rest
  rw [List.append_assoc, readEntries, reads_map_header _ bounded]
  apply read_many_write
  intro entry member suffix
  obtain ⟨here, there⟩ := each entry member
  simp [here _, there _]

end ThreeAddress.Wire
