import Formulary.Text

/-!
# Labels in ASCII

The label of a host in any script has a form in ASCII: its characters of ASCII, a hyphen, and digits
in base thirty-six that tell which other characters are to be inserted where. The insertions are
told by ascending code point; each number is the count of places and code points passed over since
the last one, and its digits are weighted by how great such numbers have been.
-/

namespace Formulary.Text

def labelDigit (value : Nat) : Char :=
  if value < 26 then Char.ofNat ('a'.toNat + value) else Char.ofNat ('0'.toNat + (value - 26))

/-- The least value of a digit that is not the last one, at a place and under a bias. -/
def labelThreshold (place bias : Nat) : Nat :=
  min 26 (max 1 (36 * (place + 1) - bias))

/-- The digits of a number from a place on, where `limit` is at least the number. -/
def labelNumber (bias : Nat) : Nat → Nat → Nat → Text
  | 0, _, number => [labelDigit number]
  | limit + 1, place, number =>
    let threshold := labelThreshold place bias
    if number < threshold then [labelDigit number]
    else
      let rest := number - threshold
      labelDigit (threshold + rest % (36 - threshold)) ::
        labelNumber bias limit (place + 1) (rest / (36 - threshold))

/-- How often a number is divided until it is small, and what is left of it. -/
def labelScale : Nat → Nat → Nat → Nat × Nat
  | 0, times, number => (times, number)
  | limit + 1, times, number =>
    if 455 < number then labelScale limit (times + 1) (number / 35) else (times, number)

/-- The bias behind a number, where `count` characters are placed by then. -/
def labelBias (number count : Nat) (isFirst : Bool) : Nat :=
  let damped := if isFirst then number / 700 else number / 2
  let (times, rest) := labelScale number 0 (damped + damped / count)
  36 * times + 36 * rest / (rest + 38)

/-- How far a label is written: the number so far, the bias, how many characters are placed, whether
one of them was inserted, and the digits. -/
structure LabelState where
  number : Nat
  bias : Nat
  placed : Nat
  inserted : Bool
  digits : Text

/-- One character of the label passed, while characters with a code point are inserted. -/
def LabelState.pass (point : Nat) (state : LabelState) (c : Char) : LabelState :=
  if c.toNat < point then { state with number := state.number + 1 }
  else if c.toNat = point then
    let count := state.placed + 1
    { number := 0
      bias := labelBias state.number count !state.inserted
      placed := count
      inserted := true
      digits := state.digits ++ labelNumber state.bias state.number 0 state.number }
  else state

/-- All characters with a code point inserted, where the one before it in the order was `last`. -/
def LabelState.insert (label : Text) (state : LabelState) (last point : Nat) : LabelState :=
  let skipped := (point - last - 1) * (state.placed + 1)
  let state := label.foldl (pass point) { state with number := state.number + skipped }
  { state with number := state.number + 1 }

/-- The characters of a label inserted by their code points, each of which is greater than the one
before it. -/
def LabelState.insertAll (label : Text) (last : Nat) : LabelState → List Nat → LabelState
  | state, [] => state
  | state, point :: rest => insertAll label point (state.insert label last point) rest

def isAscii (c : Char) : Bool :=
  c.toNat < 128

/-- The code points outside ASCII in a label, in ascending order and each one once. -/
def labelPoints (label : Text) : List Nat :=
  ((label.filter (!isAscii ·)).map Char.toNat).eraseDups.mergeSort fun one other => one ≤ other

/-- The form of a label in ASCII. -/
def punycode (label : Text) : Text :=
  let basic := label.filter isAscii
  let start : LabelState := ⟨0, 72, basic.length, false, []⟩
  let inserted := LabelState.insertAll label 127 start (labelPoints label)
  (if basic.isEmpty then [] else basic ++ ['-']) ++ inserted.digits

end Formulary.Text
