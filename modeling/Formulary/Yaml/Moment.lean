import Formulary.Binary64.Reading
import Formulary.Moment

/-!
# Dates and points in time in a settings file

A plain scalar such as `2020-01-31`, or with a time of day behind it, denotes a date or a point in
time. This module reads its parts; whether there is such a day and time is asked later.
-/

namespace Formulary.Yaml

/-- The number that `least` to `most` digits in front of a text denote, and what follows. -/
def number? (least most : Nat) (text : Text) : Option (Nat × Text) :=
  let figures := (text.take most).takeWhile Char.isDigit
  if figures.length < least then none
  else some (Binary64.value figures, text.drop figures.length)

def mark? (c : Char) (text : Text) : Option Text :=
  match text with
  | first :: rest => if first = c then some rest else none
  | [] => none

def skipBlanks (text : Text) : Text :=
  text.dropWhile fun c => c == ' ' || c == '\t'

/-- The millionths that the digits behind a point denote; further digits are cut off. -/
def millionths (figures : Text) : Nat :=
  let kept := figures.take 6
  Binary64.value (kept ++ List.replicate (6 - kept.length) '0')

def offset? (text : Text) : Option (Option Int) :=
  match skipBlanks text with
  | [] => if text.isEmpty then some none else none
  | ['Z'] => some (some 0)
  | sign :: rest =>
    if sign = '+' ∨ sign = '-' then do
      let (hours, rest) ← number? 1 2 rest
      let minutes ←
        match rest with
        | [] => some 0
        | rest => do
          let (minutes, rest) ← mark? ':' rest >>= number? 2 2
          if rest.isEmpty then some minutes else none
      let seconds : Int := (hours * 60 + minutes) * 60
      return some (if sign = '-' then -seconds else seconds)
    else none

def time? (text : Text) : Option (Clock × Option Int) := do
  let (hour, rest) ← number? 1 2 text
  let (minute, rest) ← mark? ':' rest >>= number? 2 2
  let (second, rest) ← mark? ':' rest >>= number? 2 2
  let (fraction, rest) :=
    match rest with
    | '.' :: rest => (rest.takeWhile Char.isDigit, rest.dropWhile Char.isDigit)
    | _ => ([], rest)
  let offset ← offset? rest
  return (⟨hour, minute, second, millionths fraction⟩, offset)

/-- The date and time that a text is written for. A date alone has two digits for its month and its
day; in front of a time one is enough. -/
def moment? (text : Text) : Option Moment := do
  let (year, rest) ← number? 4 4 text
  let (month, rest) ← mark? '-' rest >>= number? 1 2
  let (day, rest) ← mark? '-' rest >>= number? 1 2
  match rest with
  | [] => if text.length = 10 then some ⟨year, month, day, none, none⟩ else none
  | c :: after => do
    let clock ←
      if c = 'T' ∨ c = 't' then some after
      else if c = ' ' ∨ c = '\t' then some (skipBlanks after)
      else none
    let (time, offset) ← time? clock
    return ⟨year, month, day, some time, offset⟩

end Formulary.Yaml
