/-!
Decimal numerals. A natural number is written without leading zeros and read with any number of
them; an integer has an optional sign in front.
-/

namespace ThreeAddress.Text

def readNatural (digits : List Char) : Option Nat :=
  if !digits.isEmpty && digits.all Char.isDigit then some (Nat.ofDigitChars 10 digits 0) else none

/-- Reads a natural number below `limit`, which may carry a plus sign. -/
def readBelow (limit : Nat) (text : List Char) : Option Nat :=
  let digits := match text with
    | '+' :: rest => rest
    | _ => text
  (readNatural digits).filter (· < limit)

def readInteger : List Char → Option Int
  | '+' :: digits => (readNatural digits).map Int.ofNat
  | '-' :: digits => (readNatural digits).map fun magnitude => -Int.ofNat magnitude
  | digits => (readNatural digits).map Int.ofNat

def renderInteger : Int → String
  | .ofNat magnitude => magnitude.repr
  | .negSucc magnitude => "-" ++ (magnitude + 1).repr

theorem read_natural_repr (number : Nat) : readNatural number.repr.toList = some number := by
  have digits : ∀ c ∈ Nat.toDigits 10 number, c.isDigit = true := fun c member =>
    Nat.isDigit_of_mem_toDigits (by decide) (by decide) member
  simpa [readNatural, Nat.toDigits_ne_nil] using digits

end ThreeAddress.Text
