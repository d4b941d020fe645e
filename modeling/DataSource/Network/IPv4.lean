import DataSource.Numeral

/-!
IPv4 addresses and their one written form: four octets in decimal without leading zeros, joined by
points.
-/
namespace DataSource.Network

/-- An address of four octets. -/
structure IPv4 where
  first : Fin 256
  second : Fin 256
  third : Fin 256
  fourth : Fin 256
  deriving DecidableEq

namespace IPv4

/-- Reads one octet: at most three digits, and a leading zero only when it stands alone. -/
def readOctet (text : Text) : Option (Fin 256) :=
  if text ≠ [] ∧ text.length ≤ 3 ∧ text.all Char.isDigit ∧ (text.head? = some '0' → text = ['0'])
  then
    let value := Numeral.value text
    if fits : value < 256 then some ⟨value, fits⟩ else none
  else none

/-- Reads an address. -/
def parse? (text : Text) : Option IPv4 :=
  match text.splitOn '.' with
  | [a, b, c, d] =>
    match readOctet a, readOctet b, readOctet c, readOctet d with
    | some first, some second, some third, some fourth => some ⟨first, second, third, fourth⟩
    | _, _, _, _ => none
  | _ => none

/-- Writes an address. -/
def format (address : IPv4) : Text :=
  let octets := [address.first, address.second, address.third, address.fourth]
  Text.join '.' (octets.map fun octet => Numeral.ofNat octet.val)

end IPv4

end DataSource.Network
