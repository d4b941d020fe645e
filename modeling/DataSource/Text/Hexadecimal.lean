import DataSource.Text.Basic

/-!
Hexadecimal digits and numerals. Digits are read in either case and written in lower case.
-/
namespace DataSource.Text

/-- The value of a hexadecimal digit. -/
def hexDigit? (c : Char) : Option Nat :=
  if '0' ≤ c ∧ c ≤ '9' then some (c.toNat - '0'.toNat)
  else if 'a' ≤ c ∧ c ≤ 'f' then some (c.toNat - 'a'.toNat + 10)
  else if 'A' ≤ c ∧ c ≤ 'F' then some (c.toNat - 'A'.toNat + 10)
  else none

/-- The number that hexadecimal digits denote. -/
def hexValue? (digits : Text) : Option Nat :=
  digits.foldlM (fun n c => (hexDigit? c).map (n * 16 + ·)) 0

/-- A number in hexadecimal, without leading zeros. -/
def hexadecimal (n : Nat) : Text :=
  Nat.toDigits 16 n

/-- A number in hexadecimal, filled with zeros up to a width. -/
def hexadecimalOfWidth (width n : Nat) : Text :=
  let digits := hexadecimal n
  List.replicate (width - digits.length) '0' ++ digits

end DataSource.Text
