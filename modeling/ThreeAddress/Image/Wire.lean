/-!
The wire format of images, MessagePack: headers of numbers, texts, lists and maps, written in their
shortest forms and read in all of them. Writing appends bytes; reading takes them off the front and
hands back the rest.
-/

namespace ThreeAddress.Wire

abbrev Bytes := List UInt8

/-- The `width` lowest bytes of a number, highest first. -/
def bigEndian : Nat → Nat → Bytes
  | 0, _ => []
  | width + 1, number => bigEndian width (number / 0x100) ++ [UInt8.ofNat (number % 0x100)]

def ofBigEndian (bytes : Bytes) : Nat := bytes.foldl (fun number byte => number * 0x100 + byte.toNat) 0

def capacity : Nat → Nat
  | 0 => 1
  | width + 1 => 0x100 * capacity width

theorem big_endian_length (width number : Nat) : (bigEndian width number).length = width := by
  induction width generalizing number with
  | zero => rfl
  | succ width induction => simp [bigEndian, induction]

theorem of_big_endian_big_endian (width number : Nat) (fits : number < capacity width) :
    ofBigEndian (bigEndian width number) = number := by
  induction width generalizing number with
  | zero =>
      simp only [capacity] at fits
      simp [bigEndian, ofBigEndian]
      omega
  | succ width induction =>
      simp only [capacity] at fits
      have higher := induction (number / 0x100) (by omega)
      simp only [ofBigEndian] at higher
      simp only [bigEndian, ofBigEndian, List.foldl_append, higher, List.foldl_cons, List.foldl_nil]
      have low : (UInt8.ofNat (number % 0x100)).toNat = number % 0x100 :=
        UInt8.toNat_ofNat_of_lt (Nat.mod_lt number (by decide))
      omega

def textBytes (text : String) : Bytes := text.toUTF8.data.toList

/-! ### Writing -/

def writeNil : Bytes := [0xc0]

def writeFlag (flag : Bool) : Bytes := [if flag then 0xc3 else 0xc2]

def writeNatural (number : Nat) : Bytes :=
  if number < 0x80 then bigEndian 1 number
  else if number < 0x100 then 0xcc :: bigEndian 1 number
  else if number < 0x10000 then 0xcd :: bigEndian 2 number
  else if number < 0x100000000 then 0xce :: bigEndian 4 number
  else 0xcf :: bigEndian 8 number

/-- The two's complement of a negative number in `width` bytes. -/
def complement (width : Nat) (number : Int) : Bytes :=
  bigEndian width (number + capacity width).toNat

def writeInteger (number : Int) : Bytes :=
  if 0 ≤ number then writeNatural number.toNat
  else if -0x20 ≤ number then complement 1 number
  else if -0x80 ≤ number then 0xd0 :: complement 1 number
  else if -0x8000 ≤ number then 0xd1 :: complement 2 number
  else if -0x80000000 ≤ number then 0xd2 :: complement 4 number
  else 0xd3 :: complement 8 number

def writeTextHeader (length : Nat) : Bytes :=
  if length < 0x20 then bigEndian 1 (0xa0 + length)
  else if length < 0x100 then 0xd9 :: bigEndian 1 length
  else if length < 0x10000 then 0xda :: bigEndian 2 length
  else 0xdb :: bigEndian 4 length

def writeText (text : String) : Bytes :=
  let bytes := textBytes text
  writeTextHeader bytes.length ++ bytes

def writeListHeader (length : Nat) : Bytes :=
  if length < 0x10 then bigEndian 1 (0x90 + length)
  else if length < 0x10000 then 0xdc :: bigEndian 2 length
  else 0xdd :: bigEndian 4 length

def writeMapHeader (length : Nat) : Bytes :=
  if length < 0x10 then bigEndian 1 (0x80 + length)
  else if length < 0x10000 then 0xde :: bigEndian 2 length
  else 0xdf :: bigEndian 4 length

def writeList {α : Type} (write : α → Bytes) (values : List α) : Bytes :=
  writeListHeader values.length ++ values.flatMap write

def writeOption {α : Type} (write : α → Bytes) : Option α → Bytes
  | none => writeNil
  | some value => write value

def writeRecord (fields : List (String × Bytes)) : Bytes :=
  writeMapHeader fields.length ++ fields.flatMap fun field => writeText field.1 ++ field.2

/-- A variant with data is a map with one entry. -/
def writeVariant (name : String) (data : Bytes) : Bytes := writeRecord [(name, data)]

/-! ### Reading -/

/-- What a value starts with. The contents of texts, lists and the like follow. -/
inductive Header where
  | nil
  | flag (value : Bool)
  | unsigned (value : Nat)
  | signed (value : Int)
  | float (length : Nat)
  | text (length : Nat)
  | binary (length : Nat)
  | list (length : Nat)
  | map (length : Nat)
  | extension (length : Nat)
  deriving DecidableEq

def readBytes (length : Nat) (input : Bytes) : Option (Bytes × Bytes) :=
  let bytes := input.take length
  if bytes.length = length then some (bytes, input.drop length) else none

theorem read_bytes_append {length : Nat} {bytes : Bytes} (size : bytes.length = length)
    (rest : Bytes) : readBytes length (bytes ++ rest) = some (bytes, rest) := by
  subst size
  simp [readBytes]

def readSized (width : Nat) (header : Nat → Header) (input : Bytes) : Option (Header × Bytes) := do
  let (digits, rest) ← readBytes width input
  return (header (ofBigEndian digits), rest)

theorem read_sized_big_endian {width number : Nat} (fits : number < capacity width)
    (header : Nat → Header) (rest : Bytes) :
    readSized width header (bigEndian width number ++ rest) = some (header number, rest) := by
  simp [readSized, read_bytes_append (big_endian_length width number), of_big_endian_big_endian width number fits]

def ofComplement (width number : Nat) : Int :=
  if number < capacity width / 2 then Int.ofNat number else Int.ofNat number - capacity width

def readSigned (width : Nat) : Bytes → Option (Header × Bytes) :=
  readSized width fun number => .signed (ofComplement width number)

def readHeader : Bytes → Option (Header × Bytes)
  | [] => none
  | byte :: rest =>
      let code := byte.toNat
      if code < 0x80 then some (.unsigned code, rest)
      else if code < 0x90 then some (.map (code - 0x80), rest)
      else if code < 0xa0 then some (.list (code - 0x90), rest)
      else if code < 0xc0 then some (.text (code - 0xa0), rest)
      else if 0xe0 ≤ code then some (.signed (ofComplement 1 code), rest)
      else
        match code with
        | 0xc0 => some (.nil, rest)
        | 0xc2 => some (.flag false, rest)
        | 0xc3 => some (.flag true, rest)
        | 0xc4 => readSized 1 .binary rest
        | 0xc5 => readSized 2 .binary rest
        | 0xc6 => readSized 4 .binary rest
        | 0xc7 => readSized 1 .extension rest
        | 0xc8 => readSized 2 .extension rest
        | 0xc9 => readSized 4 .extension rest
        | 0xca => some (.float 4, rest)
        | 0xcb => some (.float 8, rest)
        | 0xcc => readSized 1 .unsigned rest
        | 0xcd => readSized 2 .unsigned rest
        | 0xce => readSized 4 .unsigned rest
        | 0xcf => readSized 8 .unsigned rest
        | 0xd0 => readSigned 1 rest
        | 0xd1 => readSigned 2 rest
        | 0xd2 => readSigned 4 rest
        | 0xd3 => readSigned 8 rest
        | 0xd4 => some (.extension 1, rest)
        | 0xd5 => some (.extension 2, rest)
        | 0xd6 => some (.extension 4, rest)
        | 0xd7 => some (.extension 8, rest)
        | 0xd8 => some (.extension 16, rest)
        | 0xd9 => readSized 1 .text rest
        | 0xda => readSized 2 .text rest
        | 0xdb => readSized 4 .text rest
        | 0xdc => readSized 2 .list rest
        | 0xdd => readSized 4 .list rest
        | 0xde => readSized 2 .map rest
        | 0xdf => readSized 4 .map rest
        | _ => none

abbrev Reader (α : Type) := Bytes → Option (α × Bytes)

/-- Reads a natural number below `bound`, in whatever form it is written. -/
def readNatural (bound : Nat) : Reader Nat := fun input => do
  let (header, rest) ← readHeader input
  match header with
  | .unsigned value => if value < bound then some (value, rest) else none
  | .signed value => if 0 ≤ value ∧ value < bound then some (value.toNat, rest) else none
  | _ => none

def readInteger : Reader Int := fun input => do
  let (header, rest) ← readHeader input
  match header with
  | .unsigned value => some (Int.ofNat value, rest)
  | .signed value => some (value, rest)
  | _ => none

def readFlag : Reader Bool := fun input => do
  let (header, rest) ← readHeader input
  match header with
  | .flag value => some (value, rest)
  | _ => none

def readNil : Reader Unit := fun input => do
  let (header, rest) ← readHeader input
  match header with
  | .nil => some ((), rest)
  | _ => none

/-- Reads a text, which may also be written as binary data that is valid UTF-8. -/
def readText : Reader String := fun input => do
  let (header, rest) ← readHeader input
  match header with
  | .text length | .binary length => do
      let (bytes, rest) ← readBytes length rest
      let text ← String.fromUTF8? ⟨bytes.toArray⟩
      return (text, rest)
  | _ => none

def readMany {α : Type} (read : Reader α) : Nat → Reader (List α)
  | 0, input => some ([], input)
  | count + 1, input => do
      let (value, rest) ← read input
      let (values, rest) ← readMany read count rest
      return (value :: values, rest)

/-- Values that each read back one after another read back as a list. -/
theorem read_many_write {α : Type} (write : α → Bytes) (read : Reader α) (values : List α)
    (suffix : Bytes)
    (roundtrip : ∀ value ∈ values, ∀ rest, read (write value ++ rest) = some (value, rest)) :
    readMany read values.length (values.flatMap write ++ suffix) = some (values, suffix) := by
  induction values with
  | nil => rfl
  | cons value values induction =>
      have first := roundtrip value (by simp)
      have later := induction fun item member => roundtrip item (by simp [member])
      simp [readMany, first, later]

/-- Reads a list. Binary data without a byte in it counts as the empty list. -/
def readList {α : Type} (read : Reader α) : Reader (List α) := fun input => do
  let (header, rest) ← readHeader input
  match header with
  | .list length => readMany read length rest
  | .binary 0 => some ([], rest)
  | _ => none

def readPair {α β : Type} (first : Reader α) (second : Reader β) : Reader (α × β) := fun input => do
  let (header, rest) ← readHeader input
  match header with
  | .list 2 => do
      let (left, rest) ← first rest
      let (right, rest) ← second rest
      return ((left, right), rest)
  | _ => none

/-- Reads a map as its entries, in the order in which they stand. -/
def readEntries {α β : Type} (key : Reader α) (value : Reader β) : Reader (List (α × β)) :=
  fun input => do
    let (header, rest) ← readHeader input
    match header with
    | .map length =>
        readMany (fun input => do
          let (name, rest) ← key input
          let (content, rest) ← value rest
          return ((name, content), rest)) length rest
    | _ => none

def readOption {α : Type} (read : Reader α) : Reader (Option α) := fun input => do
  let (header, rest) ← readHeader input
  match header with
  | .nil => some (none, rest)
  | _ => (read input).map fun (value, rest) => (some value, rest)

def skipMany (skip : Bytes → Option Bytes) : Nat → Bytes → Option Bytes
  | 0, input => some input
  | count + 1, input => (skip input).bind (skipMany skip count)

def skipBytes (length : Nat) (input : Bytes) : Option Bytes :=
  (readBytes length input).map Prod.snd

/-- Skips one value, with `inner` for the values inside it. -/
def skipWith (inner : Bytes → Option Bytes) (input : Bytes) : Option Bytes := do
  let (header, rest) ← readHeader input
  match header with
  | .nil | .flag _ | .unsigned _ | .signed _ => some rest
  | .float length | .text length | .binary length => skipBytes length rest
  | .extension length => skipBytes (length + 1) rest
  | .list length => skipMany inner length rest
  | .map length => skipMany inner (2 * length) rest

/-- Skips one value of any shape that is nested at most `levels` deep. -/
def skip : Nat → Bytes → Option Bytes
  | 0 => fun input => do
      let (header, _) ← readHeader input
      match header with
      | .list _ | .map _ | .extension _ => none
      | _ => skipWith (fun _ => none) input
  | levels + 1 => skipWith (skip levels)

/-- A field or variant can be named by its text or by its position. -/
inductive Key where
  | name (bytes : Bytes)
  | position (index : Nat)
  deriving DecidableEq

def readKey : Reader Key := fun input => do
  let (header, rest) ← readHeader input
  match header with
  | .text length | .binary length => do
      let (bytes, rest) ← readBytes length rest
      return (.name bytes, rest)
  | .unsigned index => some (.position index, rest)
  | _ => none

/-- The position that a key means among the given names. -/
def Key.index? (names : List String) : Key → Option Nat
  | .name bytes => names.findIdx? fun name => textBytes name == bytes
  | .position index => if index < names.length then some index else none

/-- The fields of a record: their names, and how the value at a position is read into the slots
that hold what has been read so far. -/
structure Fields (Slots : Type) where
  names : List String
  read : Nat → Slots → Reader Slots

/-- Fills a slot, once. -/
def fill {α Slots : Type} (slot : Option α) (read : Reader α) (place : α → Slots) : Reader Slots :=
  fun input =>
    match slot with
    | some _ => none
    | none => (read input).map fun (value, rest) => (place value, rest)

/-- Reads the entries of a record that is written as a map. Unknown fields are skipped. -/
def readNamedFields {Slots : Type} (fields : Fields Slots) (levels : Nat) :
    Nat → Slots → Reader Slots
  | 0, slots, input => some (slots, input)
  | count + 1, slots, input => do
      let (key, rest) ← readKey input
      match key.index? fields.names with
      | some index => do
          let (slots, rest) ← fields.read index slots rest
          readNamedFields fields levels count slots rest
      | none => do
          let rest ← skip levels rest
          readNamedFields fields levels count slots rest

/-- Reads the fields of a record that is written as a list, from position `index` on. -/
def readListedFields {Slots : Type} (fields : Fields Slots) : Nat → Nat → Slots → Reader Slots
  | 0, _, slots, input => some (slots, input)
  | count + 1, index, slots, input => do
      let (slots, rest) ← fields.read index slots input
      readListedFields fields count (index + 1) slots rest

/-- Reads a record from a map with its fields in any order, or from the list of all its fields.
Skipped values may be nested at most `levels` deep. -/
def readRecord {Slots α : Type} (fields : Fields Slots) (levels : Nat) (empty : Slots)
    (finish : Slots → Option α) : Reader α := fun input => do
  let (header, rest) ← readHeader input
  let (slots, rest) ← match header with
    | .map length => readNamedFields fields levels length empty rest
    | .list length =>
        if length = fields.names.length then readListedFields fields length 0 empty rest else none
    | _ => none
  let value ← finish slots
  return (value, rest)

def readVariant {α : Type} (names : List String) (data : Nat → Reader α) : Reader α :=
  fun input => do
    let (header, rest) ← readHeader input
    match header with
    | .map 1 => do
        let (key, rest) ← readKey rest
        let index ← key.index? names
        data index rest
    | _ => none

/-- Reads a variant without data: its bare name, or a variant whose data is nil. -/
def readChoice {α : Type} (names : List String) (choice : Nat → Option α) : Reader α :=
  fun input => do
    let (header, _) ← readHeader input
    match header with
    | .map _ =>
        readVariant names (fun index input => do
          let value ← choice index
          let ((), rest) ← readNil input
          return (value, rest)) input
    | _ => do
        let (key, rest) ← readKey input
        let index ← key.index? names
        let value ← choice index
        return (value, rest)

end ThreeAddress.Wire
