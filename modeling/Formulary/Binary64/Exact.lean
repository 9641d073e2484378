/-!
# The exact value of a double

A double is not a number, an infinity, or a signed multiple of a power of two. Everything that
needs the exact value, such as writing the shortest decimal or asking for odd integers, reads it
here from the sixty-four bits.
-/

namespace Formulary.Binary64

/-- What the bits of a double denote. A finite one is `significand * 2 ^ exponent`, negated if its
sign bit is set. -/
inductive Exact where
  | nan
  | infinite (negative : Bool)
  | finite (negative : Bool) (significand : Nat) (exponent : Int)
  deriving DecidableEq, Repr

/-- The exact value of a double: a sign bit, eleven bits of exponent, fifty-two of fraction. The
least exponent field has no implicit leading bit and the greatest one holds no number. -/
def exact (x : Float) : Exact :=
  let bits := x.toBits.toNat
  let negative := bits / Nat.pow 2 63 == 1
  let field : Nat := bits / Nat.pow 2 52 % Nat.pow 2 11
  let fraction : Nat := bits % Nat.pow 2 52
  if field = 2047 then
    if fraction = 0 then .infinite negative else .nan
  else if field = 0 then
    .finite negative fraction (-1074)
  else
    .finite negative (Nat.pow 2 52 + fraction) ((field : Int) - 1075)

def infinity (negative : Bool) : Float :=
  if negative then -1.0 / 0.0 else 1.0 / 0.0

def nan : Float :=
  0.0 / 0.0

namespace Exact

/-- Whether the sign bit is set; a value that is no number has no sign. -/
def isNegative : Exact → Bool
  | nan => false
  | infinite negative => negative
  | finite negative _ _ => negative

def isFinite : Exact → Bool
  | finite .. => true
  | _ => false

def isZero : Exact → Bool
  | finite _ significand _ => significand == 0
  | _ => false

def signed (negative : Bool) (magnitude : Nat) : Int :=
  if negative then -magnitude else magnitude

def number? : Exact → Option Rat
  | finite negative significand (.ofNat places) =>
    some (mkRat (signed negative (significand * Nat.pow 2 places)) 1)
  | finite negative significand (.negSucc places) =>
    some (mkRat (signed negative significand) (Nat.pow 2 (places + 1)))
  | _ => none

def towardsZero (quotient : Rat) : Int :=
  if 0 ≤ quotient then quotient.floor else quotient.ceil

/-- What a division leaves if the quotient is cut towards zero. -/
def remainder (number divisor : Rat) : Rat :=
  number - divisor * towardsZero (number / divisor)

/-- Whether the value is finite and its own floor, and halving it leaves a remainder. -/
def isOddInteger (value : Exact) : Bool :=
  match value.number? with
  | some number => number == number.floor && remainder number 2 != 0
  | none => false

def isInteger : Exact → Bool
  | finite _ _ (.ofNat _) => true
  | finite _ significand (.negSucc places) => significand % Nat.pow 2 (places + 1) == 0
  | _ => false

/-- The integer part of a finite value, cut towards zero. -/
def truncate? : Exact → Option Int
  | finite negative significand exponent =>
    let magnitude : Nat :=
      match exponent with
      | .ofNat places => significand * Nat.pow 2 places
      | .negSucc places => significand / Nat.pow 2 (places + 1)
    some (if negative then -(magnitude : Int) else magnitude)
  | _ => none

end Exact

end Formulary.Binary64
