import Formulary.Text.Hexadecimal
import Formulary.Text.Printable

/-!
# Quoted texts in messages

A text inside a message is quoted so that every character can be told: the quotation mark and the
backslash behind a backslash, a few controls by a letter, other characters that are not printable
by their code point in hexadecimal.
-/

namespace Formulary.Text

def escape (mark c : Char) : Text :=
  if c = mark || c = '\\' then ['\\', c]
  else if c = '\n' then ['\\', 'n']
  else if c = '\r' then ['\\', 'r']
  else if c = '\t' then ['\\', 't']
  else if isPrintable c then [c]
  else if c.toNat < 0x100 then '\\' :: 'x' :: hexadecimal 2 c.toNat
  else if c.toNat < 0x10000 then '\\' :: 'u' :: hexadecimal 4 c.toNat
  else '\\' :: 'U' :: hexadecimal 8 c.toNat

/-- The quotation mark of a text: single, unless the text has single marks and no double one. -/
def quotationMark (text : Text) : Char :=
  if text.contains '\'' && !text.contains '"' then '"' else '\''

def quoted (text : Text) : Text :=
  let mark := quotationMark text
  mark :: (text.flatMap (escape mark) ++ [mark])

end Formulary.Text
