import Formulary.Binary64.Exact

/-!
# Powers without faults

A checked power refuses to answer where the result is infinite or undefined although both arguments
are finite. `recoverPower` turns each refusal back into the value that the unchecked power has
there, so that raising to a power never fails: too great a result is infinite, a power of zero with
a negative exponent is infinite, and an even root of a negative number is no number. The sign of an
infinity is that of the base if the exponent is an odd integer, and positive otherwise.
-/

namespace Formulary.Binary64

inductive PowerFault where
  /-- The arguments are finite and not a pole, but the result is beyond the greatest double. -/
  | overflow
  /-- There is no such power, or zero is raised to a negative exponent. -/
  | domain
  deriving DecidableEq, Repr

/-- The power function `power`, refusing where finite arguments have no finite result. -/
def checkedPower (power : Float → Float → Float) (base exponent : Float) :
    Except PowerFault Float :=
  let result := power base exponent
  if (exact base).isFinite && (exact exponent).isFinite then
    match exact result with
    | .nan => .error .domain
    | .infinite _ => .error (if (exact base).isZero then .domain else .overflow)
    | .finite .. => .ok result
  else
    .ok result

def copySign (x sign : Float) : Float :=
  if (exact x).isNegative == (exact sign).isNegative then x else -x

/-- The value of a checked power, with a value in place of each refusal. The base is not zero where
there is an overflow, so its sign shows in a comparison; the sign of a zero has to be copied. -/
def recoverPower (checked : Float → Float → Except PowerFault Float) (base exponent : Float) :
    Float :=
  match checked base exponent with
  | .ok result => result
  | .error .overflow => infinity (base < 0.0 && (exact exponent).isOddInteger)
  | .error .domain =>
    if base == 0.0 && exponent < 0.0 then
      infinity (copySign 1.0 base < 0.0 && (exact exponent).isOddInteger)
    else
      nan

def power : Float → Float → Float :=
  recoverPower (checkedPower Float.pow)

end Formulary.Binary64
