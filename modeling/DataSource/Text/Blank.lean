import DataSource.Text.Basic

/-!
Two classes of white space. Connection strings are written in ASCII and know its six blanks;
configuration values are trimmed of every Unicode blank.
-/
namespace DataSource.Text

/-- The six blanks of ASCII: space, tab, line feed, carriage return, vertical tab, form feed
(`_WHITESPACE`). -/
def isBlank (c : Char) : Bool :=
  c = ' ' || c = '\t' || c = '\n' || c = '\r' || c = '\x0b' || c = '\x0c'

/-- The blanks of Unicode, which `strip` takes off: the characters of the property White_Space and
the four information separators U+001C to U+001F. -/
def isUnicodeBlank (c : Char) : Bool :=
  let n := c.toNat
  (0x09 ≤ n && n ≤ 0x0d) || (0x1c ≤ n && n ≤ 0x20) || n = 0x85 || n = 0xa0 || n = 0x1680 ||
    (0x2000 ≤ n && n ≤ 0x200a) || n = 0x2028 || n = 0x2029 || n = 0x202f || n = 0x205f ||
    n = 0x3000

end DataSource.Text
