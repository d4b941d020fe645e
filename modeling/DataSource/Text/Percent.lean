import DataSource.Text.Quoted
import DataSource.Text.Utf8

/-!
Percent escapes. An escape is a percent sign and two hexadecimal digits, and stands for one octet.
Writing escapes the octets of every character that is neither unreserved nor declared safe.
Reading takes escapes as octets and all other characters as their own octets, and reads the whole
as UTF-8. In a form field a plus sign stands for a space besides. Reading is `unescape`, and
writing is `quote` and `quote_plus`.
-/
namespace DataSource.Text.Percent

/-- Where an escaped text stands. -/
inductive Style where
  /-- A component of an address, in which a plus sign is itself. -/
  | component
  /-- A field of a form, in which a plus sign is a space. -/
  | field
  deriving DecidableEq

/-- A percent sign that no two hexadecimal digits follow. -/
structure BadEscape where
  /-- The percent sign and at most two characters after it. -/
  piece : Text
  deriving DecidableEq

/-- What is wrong with the text. -/
def BadEscape.message (bad : BadEscape) : Text :=
  "invalid URL escape ".toList ++ quoted bad.piece

/-- The characters that never need an escape. -/
def isUnreserved (c : Char) : Bool :=
  c.isAlphanum || c = '_' || c = '.' || c = '-' || c = '~'

/-- One octet as an escape, its digits in upper case. -/
def escape (octet : UInt8) : Text :=
  ['%', (Nat.digitChar (octet.toNat / 16)).toUpper, (Nat.digitChar (octet.toNat % 16)).toUpper]

/-- Escapes the octets of a character. -/
def escapeChar (c : Char) : Text :=
  (String.utf8EncodeChar c).flatMap escape

/-- Writes a component in which some reserved characters are safe (`quote`). -/
def encode (safe : Char → Bool) (text : Text) : Text :=
  text.flatMap fun c => if isUnreserved c || safe c then [c] else escapeChar c

/-- Writes a form field: a space becomes a plus sign and only unreserved characters stay
(`quote_plus`). -/
def encodeField (text : Text) : Text :=
  text.flatMap fun c =>
    if c = ' ' then ['+'] else if isUnreserved c then [c] else escapeChar c

/-- The octets of a character that is not part of an escape. -/
def plainOctets (style : Style) (c : Char) : List UInt8 :=
  if style = .field ∧ c = '+' then String.utf8EncodeChar ' ' else String.utf8EncodeChar c

/-- The octets that an escaped text stands for. The first bad escape is reported. -/
def octets (style : Style) : Text → Except BadEscape (List UInt8)
  | [] => .ok []
  | c :: rest =>
    if c = '%' then
      match rest with
      | high :: low :: rest =>
        match hexDigit? high, hexDigit? low with
        | some x, some y =>
          match octets style rest with
          | .ok more => .ok (UInt8.ofNat (x * 16 + y) :: more)
          | .error bad => .error bad
        | _, _ => .error ⟨[c, high, low]⟩
      | short => .error ⟨c :: short⟩
    else
      match octets style rest with
      | .ok more => .ok (plainOctets style c ++ more)
      | .error bad => .error bad

/-- The text that an escaped text stands for (`unescape`). -/
def decode (style : Style) (text : Text) : Except BadEscape Text :=
  (octets style text).map Utf8.decode

end DataSource.Text.Percent
