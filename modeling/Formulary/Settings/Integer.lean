import Formulary.Binary64.Reading
import Formulary.Issue
import Formulary.Settings.Value

/-!
# Integers among raw values

A setting that is an integer may come as a flag, as a real without a fraction, or as a text. The
text may have zeros and marks `_` in front, marks between its digits, and a fraction of zeros
behind.
-/

namespace Formulary.Settings

/-- What counts of a numeral behind zeros and marks `_`, the last of which is `last`: all from the
first digit or minus sign on. Where nothing or a point comes first, the last zero or mark counts as
well. -/
def skipZeros (last : Char) : Text → Option Text
  | [] => some [last]
  | c :: rest =>
    if c = '0' ∨ c = '_' then skipZeros c rest
    else if c.isDigit ∨ c = '-' then some (c :: rest)
    else if c = '.' then some (last :: c :: rest)
    else none

/-- A numeral without the zeros in front that do not count. -/
def dropLeadingZeros? : Text → Option Text
  | [] => none
  | c :: rest =>
    if c = '0' then skipZeros '0' rest
    else if c.isDigit ∨ c = '-' then some (c :: rest)
    else none

/-- What stands in front of a point that only zeros follow; without such a point, the whole text. -/
def dropZeroFraction (text : Text) : Text :=
  match text.dropWhile (· != '.') with
  | '.' :: '0' :: zeros =>
    if zeros.all (· == '0') then text.takeWhile (· != '.') else text
  | _ => text

/-- A plus sign in front does not count, unless a minus sign comes behind it. -/
def dropPlus? : Text → Option Text
  | '+' :: '-' :: _ => none
  | '+' :: rest => some rest
  | rest => some rest

def splitMinus : Text → Text × Text
  | '-' :: rest => (['-'], rest)
  | rest => ([], rest)

/-- The bare numeral that a text is written for: an optional minus sign and digits, if the text has
the form of an integer at all. -/
def numeralOf? (text : Text) : Option Text := do
  let unsigned ← dropPlus? (Text.trimSpace text)
  let (sign, size) := splitMinus unsigned
  let size ← dropLeadingZeros? size
  let numeral := dropZeroFraction (sign ++ size)
  return (Text.joinMarks? numeral).getD numeral

/-- The greatest number of characters that an integer may be written with. -/
def longestNumeral : Nat := 4300

/-- The integer of a numeral. One that is too long is refused for that, whatever follows its
digits. -/
def integerOfNumeral (numeral : Text) : Except Issue.Cause Int :=
  let (sign, size) := splitMinus numeral
  let figures := size.takeWhile Char.isDigit
  if figures.isEmpty then .error .unreadableInteger
  else if longestNumeral < sign.length + figures.length then .error .oversizedInteger
  else if figures.length < size.length then .error .unreadableInteger
  else .ok (if sign.isEmpty then Binary64.value figures else -(Binary64.value figures : Int))

def integerOfText (text : Text) : Except Issue.Cause Int :=
  match numeralOf? text with
  | some numeral => integerOfNumeral numeral
  | none => .error .unreadableInteger

def fitsWord (value : Int) : Bool :=
  -(Nat.pow 2 63 : Int) ≤ value && value < Nat.pow 2 63

/-- The integer that a real is equal to. It has to lie within the range of a word, both ends of
which are left out. -/
def integerOfReal (value : Float) : Except Issue.Cause Int :=
  let exact := Binary64.exact value
  match exact.truncate? with
  | none => .error .notFinite
  | some whole =>
    if !exact.isInteger then .error .fractionalInteger
    else if whole.natAbs < Nat.pow 2 63 then .ok whole
    else .error .oversizedInteger

def integerOf : Value → Except Issue.Cause Int
  | .integer value => .ok value
  | .bool value => .ok (if value then 1 else 0)
  | .real value => integerOfReal value
  | .text text => integerOfText text
  | _ => .error .notInteger

end Formulary.Settings
