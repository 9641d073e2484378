import Formulary.Binary64.Shortest
import Formulary.Text

/-!
# How doubles are written

A double is written with its shortest decimal digits: with a point among them while its size is
moderate, and with an exponent otherwise. The decisions of the format stand in one record.
-/

namespace Formulary.Binary64

/-- The decisions of a decimal format. -/
structure Layout where
  /-- The least power of ten of a first digit that is still written by place. -/
  leastPlace : Int
  /-- The greatest power of ten of a first digit that is still written by place. -/
  greatestPlace : Int
  /-- What follows an integer that is written by place. -/
  wholeEnd : String
  /-- What stands before the exponent. -/
  mark : String
  /-- The least number of digits of an exponent, behind its sign. -/
  exponentDigits : Nat
  /-- How infinity is written, without its sign. -/
  infinity : String
  /-- How a value that is no number is written. -/
  nan : String

/-- Numbers are written by place from `0.0001` on and below `10 ^ 16`, integers end in `.0`, and
exponents have a sign and at least two digits. -/
def layout : Layout where
  leastPlace := -4
  greatestPlace := 15
  wholeEnd := ".0"
  mark := "e"
  exponentDigits := 2
  infinity := "inf"
  nan := "nan"

def digits (n : Nat) : Text :=
  Nat.toDigits 10 n

def padLeft (width : Nat) (text : Text) : Text :=
  List.replicate (width - text.length) '0' ++ text

/-- Digits with a point behind the first `whole` of them, filled up with zeros on either side. -/
def Layout.byPlace (format : Layout) (figures : Text) (place : Int) : Text :=
  if place < 0 then
    '0' :: '.' :: (List.replicate (-place - 1).toNat '0' ++ figures)
  else
    let whole := place.toNat + 1
    if figures.length ≤ whole then
      figures ++ List.replicate (whole - figures.length) '0' ++ format.wholeEnd.toList
    else
      figures.take whole ++ '.' :: figures.drop whole

/-- Digits with a point behind the first one, and the exponent. -/
def Layout.byExponent (format : Layout) (figures : Text) (place : Int) : Text :=
  let fraction := if figures.length ≤ 1 then [] else '.' :: figures.drop 1
  figures.take 1 ++ fraction ++ format.mark.toList ++
    (if place < 0 then '-' else '+') :: padLeft format.exponentDigits (digits place.natAbs)

def Layout.write (format : Layout) (x : Float) : Text :=
  let signed (negative : Bool) (text : Text) : Text := if negative then '-' :: text else text
  match exact x with
  | .nan => format.nan.toList
  | .infinite negative => signed negative format.infinity.toList
  | .finite negative 0 _ => signed negative ('0' :: format.wholeEnd.toList)
  | .finite negative significand exponent =>
    let decimal := shortest significand exponent
    let figures := digits decimal.coefficient
    let place := decimal.exponent + figures.length - 1
    signed negative <|
      if format.leastPlace ≤ place ∧ place ≤ format.greatestPlace then
        format.byPlace figures place
      else
        format.byExponent figures place

def write (x : Float) : Text :=
  layout.write x

end Formulary.Binary64
