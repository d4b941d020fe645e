import DataSource.Text.Basic

/-!
Decimal numerals. A whole number is an optional sign and one or more ASCII digits; it counts when
it fits in 64 bits. A numeral of more than 4300 digits, leading zeros included, is refused before
its value is looked at. `toInt?` is `parse_int`.
-/
namespace DataSource.Numeral

/-- The most digits that a numeral may have. -/
def maxDigits : Nat := 4300

/-- A numeral with more digits than are read. -/
structure TooLong where
  /-- How many digits it has. -/
  digits : Nat
  deriving DecidableEq

/-- The numeral of a natural number. -/
def ofNat (n : Nat) : Text :=
  Nat.toDigits 10 n

/-- The numeral of an integer, a minus sign before the negative ones. -/
def ofInt : Int → Text
  | .ofNat n => ofNat n
  | .negSucc n => '-' :: ofNat (n + 1)

/-- What is wrong with the numeral. -/
def TooLong.message (long : TooLong) : Text :=
  "Exceeds the limit (".toList ++ ofNat maxDigits ++
    " digits) for integer string conversion: value has ".toList ++ ofNat long.digits ++
    " digits; use sys.set_int_max_str_digits() to increase the limit".toList

/-- The natural number that digits denote. -/
def value (digits : Text) : Nat :=
  Nat.ofDigitChars 10 digits 0

/-- Splits a sign off: whether it is a minus, and the rest. -/
def sign : Text → Bool × Text
  | '-' :: rest => (true, rest)
  | '+' :: rest => (false, rest)
  | text => (false, text)

/-- Whether an integer fits in 64 bits with a sign (`_INT64_MIN`, `_INT64_MAX`). -/
def fits (n : Int) : Bool :=
  -9223372036854775808 ≤ n && n ≤ 9223372036854775807

/-- The integer that a text denotes: none unless the text is a numeral whose value fits in 64 bits
(`parse_int`). -/
def toInt? (text : Text) : Except TooLong (Option Int) :=
  let (negative, digits) := sign text
  if digits.isEmpty || !digits.all Char.isDigit then .ok none
  else if maxDigits < digits.length then .error ⟨digits.length⟩
  else
    let n : Int := if negative then -(value digits : Int) else value digits
    .ok (if fits n then some n else none)

/-- An integer that is read fits in 64 bits. -/
theorem fits_of_toInt? {text : Text} {n : Int} (read : toInt? text = .ok (some n)) :
    fits n = true := by
  grind [toInt?]

end DataSource.Numeral
