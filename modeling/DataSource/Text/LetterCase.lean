import DataSource.Text.Basic

/-!
Comparing a text with an ASCII word whatever the case of its letters. One letter outside ASCII
takes part: the lower case of the kelvin sign U+212A is an ordinary `k`. No other character has a
lower case that is one ASCII letter.
-/
namespace DataSource.Text

/-- The ASCII letter that is the lower case of a character (`lower`), or else the character
itself. -/
def lowerToAscii (c : Char) : Char :=
  if c = '\u212a' then 'k' else c.toLower

/-- Whether a text spells a lower-case ASCII word, letter by letter, in any case. -/
def spells (word text : Text) : Bool :=
  text.map lowerToAscii = word

end DataSource.Text
