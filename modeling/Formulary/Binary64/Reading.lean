import Formulary.Binary64.Shortest
import Formulary.Text.DigitValue
import Formulary.Text.Marks
import Formulary.Text.UpperCase

/-!
# How doubles are read

A decimal is read as the nearest double, of two equally near ones the one with an even significand,
and as infinity where it is too great. Three grammars use it: the literals of formulas, numbers
that a user types, and numbers in fields of a request.
-/

namespace Formulary.Binary64

def value (figures : Text) : Nat :=
  figures.foldl (fun total c => 10 * total + (c.toNat - '0'.toNat)) 0

/-- Decimals at or above this power of ten are infinite. -/
def overflowPlace : Int := 310

/-- Positive decimals below this power of ten round to zero. -/
def underflowPlace : Int := -330

def Decimal.toFloat (decimal : Decimal) : Float :=
  if decimal.coefficient = 0 then 0.0
  else
    let place := decimal.exponent + (Nat.toDigits 10 decimal.coefficient).length
    if overflowPlace < place then infinity false
    else if place < underflowPlace then 0.0
    else Float.ofScientific decimal.coefficient (decimal.exponent < 0) decimal.exponent.natAbs

/-- The double nearest to an integer. -/
def ofInt (n : Int) : Float :=
  let size := Decimal.toFloat ⟨n.natAbs, 0⟩
  if n < 0 then -size else size

/-- The double nearest to an integer, unless that is infinite. -/
def ofInt? (n : Int) : Option Float :=
  let nearest := ofInt n
  if (exact nearest).isFinite then some nearest else none

/-- Whether a text is a literal: digits, and maybe a point with digits behind it. -/
def isLiteral (text : Text) : Bool :=
  let whole := text.takeWhile Char.isDigit
  match text.dropWhile Char.isDigit with
  | [] => !whole.isEmpty
  | '.' :: fraction => !whole.isEmpty && !fraction.isEmpty && fraction.all Char.isDigit
  | _ => false

def literal? (text : Text) : Option Float :=
  if isLiteral text then
    let fraction := (text.dropWhile Char.isDigit).drop 1
    some (Decimal.toFloat ⟨value (text.filter Char.isDigit), -fraction.length⟩)
  else none

def splitSign : Text → Bool × Text
  | '-' :: rest => (true, rest)
  | '+' :: rest => (false, rest)
  | rest => (false, rest)

/-- The exponent that a text denotes: nothing, or a mark followed by an integer. -/
def exponent? : Text → Option Int
  | [] => some 0
  | mark :: rest =>
    let (negative, figures) := splitSign rest
    if (mark == 'e' || mark == 'E') && !figures.isEmpty && figures.all Char.isDigit then
      some (if negative then -(value figures : Int) else value figures)
    else none

/-- A decimal without a sign: digits with a point before, among or behind them or without one, and
maybe an exponent. -/
def Decimal.read? (text : Text) : Option Decimal :=
  let whole := text.takeWhile Char.isDigit
  let (fraction, rest) :=
    match text.dropWhile Char.isDigit with
    | '.' :: rest => (rest.takeWhile Char.isDigit, rest.dropWhile Char.isDigit)
    | rest => ([], rest)
  if whole.isEmpty && fraction.isEmpty then none
  else
    (exponent? rest).map fun exponent =>
      ⟨value (whole ++ fraction), exponent - fraction.length⟩

/-- A double with a sign in front of a decimal, of infinity or of the word for no number. -/
def read? (text : Text) : Option Float :=
  let (negative, size) := splitSign text
  let word := String.ofList (Text.asciiLower size)
  let found :=
    if word == "inf" || word == "infinity" then some (infinity false)
    else if word == "nan" then some nan
    else (Decimal.read? size).map Decimal.toFloat
  if negative then found.map Float.neg else found

/-- A text without the marks `_` that stand between two digits; a mark elsewhere is refused.
`digitBefore` tells whether a digit comes before the text. -/
def joinDigits? (digitBefore : Bool) : Text → Option Text
  | [] => some []
  | '_' :: d :: rest =>
    if digitBefore && d.isDigit then (joinDigits? true rest).map (d :: ·) else none
  | ['_'] => none
  | c :: rest => (joinDigits? c.isDigit rest).map (c :: ·)

/-- A number in a field of a request. White space around it does not count; where there is none,
marks `_` that stand alone inside the text do not count either, wherever they are. -/
def readField? (text : Text) : Option Float :=
  (read? (Text.trimSpace text)).or ((Text.joinMarks? text).bind read?)

/-- A number that a user types: white space around it does not count, digits of any script do, and
single marks `_` may part its digits. -/
def readTyped? (text : Text) : Option Float :=
  let ascii := (Text.trimSpace text).map fun c => (asciiDigit? c).getD c
  (joinDigits? false ascii).bind read?

end Formulary.Binary64
