import DataSource.Text.Basic

/-!
Texts as octets in UTF-8. Writing is exact. Reading accepts every list of octets: whatever part of
it begins no character that it finishes becomes the replacement character U+FFFD, one for each
longest part that could still have been continued and one for each octet that cannot begin a
character.

The reader takes one octet at a time and keeps the character it is in the middle of. Which octets
may come second depends on the first one; this is what excludes surrogates, code points above
U+10FFFF and forms that are longer than necessary.
-/
namespace DataSource.Text.Utf8

/-- The octets of a text. -/
def encode (text : Text) : List UInt8 :=
  text.flatMap String.utf8EncodeChar

/-- Stands for octets that are no character. -/
def replacement : Char := '\ufffd'

/-- A character of which some octets are still missing. -/
structure Pending where
  /-- The bits read so far. -/
  value : Nat
  /-- How many octets follow the next one. -/
  remaining : Nat
  /-- The least octet that may come next. -/
  low : Nat
  /-- The greatest octet that may come next. -/
  high : Nat

/-- Reads the first octet of a character: the text it adds and the character it leaves pending. -/
def first (octet : UInt8) : Text × Option Pending :=
  let n := octet.toNat
  if n < 0x80 then ([Char.ofNat n], none)
  else if n < 0xc2 then ([replacement], none)
  else if n < 0xe0 then ([], some ⟨n - 0xc0, 0, 0x80, 0xbf⟩)
  else if n < 0xf0 then
    ([], some ⟨n - 0xe0, 1, if n = 0xe0 then 0xa0 else 0x80, if n = 0xed then 0x9f else 0xbf⟩)
  else if n < 0xf5 then
    ([], some ⟨n - 0xf0, 2, if n = 0xf0 then 0x90 else 0x80, if n = 0xf4 then 0x8f else 0xbf⟩)
  else ([replacement], none)

/-- Reads an octet that may continue the pending character. One that does not is itself read as
the first of the next character. -/
def next (pending : Option Pending) (octet : UInt8) : Text × Option Pending :=
  match pending with
  | none => first octet
  | some ⟨value, remaining, low, high⟩ =>
    if low ≤ octet.toNat ∧ octet.toNat ≤ high then
      let value := value * 64 + (octet.toNat - 0x80)
      match remaining with
      | 0 => ([Char.ofNat value], none)
      | remaining + 1 => ([], some ⟨value, remaining, 0x80, 0xbf⟩)
    else
      let (added, pending) := first octet
      (replacement :: added, pending)

/-- Reads octets in the middle of a character or between two. -/
def decodeFrom : Option Pending → List UInt8 → Text
  | none, [] => []
  | some _, [] => [replacement]
  | pending, octet :: rest =>
    let (added, pending) := next pending octet
    added ++ decodeFrom pending rest

/-- The text of a list of octets. -/
def decode (octets : List UInt8) : Text :=
  decodeFrom none octets

end DataSource.Text.Utf8
