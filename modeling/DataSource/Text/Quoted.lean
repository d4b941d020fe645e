import DataSource.Text.Hexadecimal
import DataSource.Text.Printable

/-!
The quoted form in which messages show a text. Single quotes enclose it, unless it has a single
quote and no double quote, which double quotes then enclose. A backslash and the enclosing quote
are escaped, three control characters have short escapes, and every other character that is not
printable is written by its code point in two, four or eight hexadecimal digits.
-/
namespace DataSource.Text

/-- The quote that encloses a text. -/
def enclosingQuote (text : Text) : Char :=
  if '\'' ∈ text ∧ '"' ∉ text then '"' else '\''

/-- One character as it stands between quotes. -/
def quotedChar (quote c : Char) : Text :=
  if c = quote ∨ c = '\\' then ['\\', c]
  else if c = '\n' then ['\\', 'n']
  else if c = '\r' then ['\\', 'r']
  else if c = '\t' then ['\\', 't']
  else if isPrintable c then [c]
  else if c.toNat < 0x100 then '\\' :: 'x' :: hexadecimalOfWidth 2 c.toNat
  else if c.toNat < 0x10000 then '\\' :: 'u' :: hexadecimalOfWidth 4 c.toNat
  else '\\' :: 'U' :: hexadecimalOfWidth 8 c.toNat

/-- A text between quotes (`repr`). -/
def quoted (text : Text) : Text :=
  let quote := enclosingQuote text
  quote :: text.flatMap (quotedChar quote) ++ [quote]

end DataSource.Text
