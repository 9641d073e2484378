import Formulary.Binary64.Exact

/-!
# The shortest decimal of a double

Many decimals round to the same double. `shortest` finds the one with the fewest digits, and of
those the nearest to the exact value. A double `m * 2 ^ q` is what the decimals between the
midpoints to its two neighbours round to; the midpoints themselves count if `m` is even.
-/

namespace Formulary.Binary64

/-- The decimal `coefficient * 10 ^ exponent`. -/
structure Decimal where
  coefficient : Nat
  exponent : Int
  deriving DecidableEq, Repr

/-- The decimals that round to a double, all over the denominator `scale`. -/
structure Interval where
  /-- The exact value. -/
  value : Nat
  /-- The least value that may round to it. -/
  low : Nat
  /-- The greatest value that may round to it. -/
  high : Nat
  /-- Whether the two ends round to it. -/
  closed : Bool
  /-- The denominator. -/
  scale : Nat

/-- The interval of the double `m * 2 ^ q`. Its lower neighbour is half as far away as its upper one
where the exponent changes. -/
def Interval.ofBinary (m : Nat) (q : Int) : Interval :=
  let unit := Nat.pow 2 q.toNat
  let narrow := m == Nat.pow 2 52 && q != -1074
  { value := 4 * m * unit
    low := (4 * m - if narrow then 1 else 2) * unit
    high := (4 * m + 2) * unit
    closed := m % 2 == 0
    scale := 4 * Nat.pow 2 (-q).toNat }

/-- Whether `numerator / denominator` lies in an interval whose scale is `1 / factor` of the
denominator. -/
def Interval.contains (range : Interval) (factor numerator : Nat) : Bool :=
  let low := range.low * factor
  let high := range.high * factor
  if range.closed then low ≤ numerator && numerator ≤ high
  else low < numerator && numerator < high

/-- On the grid of the multiples of `10 ^ place`, the one of the two neighbours of the value that
lies in the interval; the nearer one if both do, and the even one if both are equally near. -/
def Interval.onGrid? (range : Interval) (place : Int) : Option Decimal :=
  let unit := Nat.pow 10 place.toNat * range.scale
  let factor := Nat.pow 10 (-place).toNat
  let value := range.value * factor
  let below := value / unit
  let above := below + 1
  let pick (coefficient : Nat) : Option Decimal := some ⟨coefficient, place⟩
  match range.contains factor (below * unit), range.contains factor (above * unit) with
  | true, true =>
    if 2 * value < (below + above) * unit then pick below
    else if (below + above) * unit < 2 * value then pick above
    else pick (if below % 2 = 0 then below else above)
  | true, false => pick below
  | false, true => pick above
  | false, false => none

/-- How often a positive numerator below the denominator can be multiplied by ten and stay below
it; `limit` bounds the count. -/
def leadingZeros (limit numerator denominator : Nat) : Nat :=
  match limit with
  | 0 => 0
  | limit + 1 =>
    if numerator * 10 < denominator then leadingZeros limit (numerator * 10) denominator + 1 else 0

/-- The place above the first digit of a positive value: the least `k` with the value below
`10 ^ k`. -/
def Interval.magnitude (range : Interval) : Int :=
  if range.scale ≤ range.value then
    (Nat.toDigits 10 (range.value / range.scale)).length
  else
    -(leadingZeros 330 range.value range.scale : Int)

/-- Seventeen digits tell any two doubles apart. -/
def mostDigits : Nat := 17

/-- A decimal without zeros at its end; `limit` bounds their number. -/
def Decimal.normalize (limit : Nat) (decimal : Decimal) : Decimal :=
  match limit with
  | 0 => decimal
  | limit + 1 =>
    if decimal.coefficient % 10 = 0 then
      Decimal.normalize limit ⟨decimal.coefficient / 10, decimal.exponent + 1⟩
    else decimal

/-- The shortest decimal that rounds to the positive double `m * 2 ^ q`. -/
def shortest (m : Nat) (q : Int) : Decimal :=
  let range := Interval.ofBinary m q
  let top := range.magnitude
  let found :=
    (List.range mostDigits).findSome? fun (more : Nat) => range.onGrid? (top - (more + 1))
  (found.getD ⟨m, 0⟩).normalize mostDigits

end Formulary.Binary64
