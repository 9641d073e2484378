import Formulary.Text

/-!
# Hexadecimal digits

Code points and bytes are written in hexadecimal digits, which are read in both cases and written in
small letters.
-/

namespace Formulary.Text

def hexValue? (c : Char) : Option Nat :=
  if c.isDigit then some (c.toNat - '0'.toNat)
  else if 'a' ≤ c ∧ c ≤ 'f' then some (c.toNat - 'a'.toNat + 10)
  else if 'A' ≤ c ∧ c ≤ 'F' then some (c.toNat - 'A'.toNat + 10)
  else none

/-- The hexadecimal digits of a number, in small letters, filled up to `width`. -/
def hexadecimal (width n : Nat) : Text :=
  let figures := Nat.toDigits 16 n
  List.replicate (width - figures.length) '0' ++ figures

end Formulary.Text
