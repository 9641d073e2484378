import Formulary.Text

/-!
# Dates and points in time

A value may be a date, or a point in time with or without its distance from universal time. No
setting is one, so only three things matter: whether there is such a day and time at all, how it is
shown in a complaint, and whether two of them are the same.
-/

namespace Formulary

structure Clock where
  hour : Nat
  minute : Nat
  second : Nat
  millionth : Nat
  deriving DecidableEq, Repr

/-- A date, maybe with a time of day and its distance from universal time in seconds. -/
structure Moment where
  year : Nat
  month : Nat
  day : Nat
  time : Option Clock
  offset : Option Int
  deriving DecidableEq, Repr

namespace Moment

def isLeapYear (year : Nat) : Bool :=
  year % 4 == 0 && (year % 100 != 0 || year % 400 == 0)

def daysIn (year month : Nat) : Nat :=
  if month = 2 then (if isLeapYear year then 29 else 28)
  else if [4, 6, 9, 11].contains month then 30
  else 31

def secondsPerDay : Nat := 86400

/-- How a span of time is shown, in whole days and the seconds of one more day. -/
def displaySpan (seconds : Int) : String :=
  let days := seconds / secondsPerDay
  let rest := seconds % secondsPerDay
  let parts :=
    (if days = 0 then [] else ["days=" ++ toString days]) ++
      (if rest = 0 then [] else ["seconds=" ++ toString rest])
  "datetime.timedelta(" ++ ", ".intercalate parts ++ ")"

/-- What is wrong with a distance from universal time: it has to be less than a day. -/
def offsetFlaw? (offset : Int) : Option String :=
  if offset.natAbs < secondsPerDay then none
  else
    some ("offset must be a timedelta strictly between -timedelta(hours=24) and " ++
      "timedelta(hours=24), not " ++ displaySpan offset ++ ".")

def dateFlaw? (moment : Moment) : Option String :=
  if moment.year = 0 then some "year 0 is out of range"
  else if moment.month < 1 ∨ 12 < moment.month then some "month must be in 1..12"
  else if moment.day < 1 ∨ daysIn moment.year moment.month < moment.day then
    some "day is out of range for month"
  else none

def clockFlaw? (clock : Clock) : Option String :=
  if 23 < clock.hour then some "hour must be in 0..23"
  else if 59 < clock.minute then some "minute must be in 0..59"
  else if 59 < clock.second then some "second must be in 0..59"
  else none

/-- What is wrong with a date or a point in time, if it does not exist: first with its distance from
universal time, then with its date, then with its time of day. -/
def flaw? (moment : Moment) : Option String :=
  (moment.offset.bind offsetFlaw?).or (moment.dateFlaw?.or (moment.time.bind clockFlaw?))

def listed (numbers : List Nat) : String :=
  ", ".intercalate (numbers.map toString)

/-- The numbers of a time of day that are shown. Seconds and millionths of zero at the end are left
out. -/
def shownClock (clock : Clock) : List Nat :=
  if clock.millionth ≠ 0 then [clock.hour, clock.minute, clock.second, clock.millionth]
  else if clock.second ≠ 0 then [clock.hour, clock.minute, clock.second]
  else [clock.hour, clock.minute]

def displayOffset (offset : Int) : String :=
  if offset = 0 then "datetime.timezone.utc"
  else "datetime.timezone(" ++ displaySpan offset ++ ")"

def display (moment : Moment) : Text :=
  let date := [moment.year, moment.month, moment.day]
  let shown :=
    match moment.time with
    | none => "datetime.date(" ++ listed date ++ ")"
    | some clock =>
      let zone :=
        match moment.offset with
        | some offset => ", tzinfo=" ++ displayOffset offset
        | none => ""
      "datetime.datetime(" ++ listed (date ++ shownClock clock) ++ zone ++ ")"
  shown.toList

def daysBeforeYear (year : Nat) : Nat :=
  let past := year - 1
  past * 365 + past / 4 - past / 100 + past / 400

def daysBeforeMonth (year month : Nat) : Nat :=
  (List.range month).foldl (fun days past => if past = 0 then days else days + daysIn year past) 0

/-- The number of millionths of a second between a fixed point in time and a moment. -/
def instant (moment : Moment) (clock : Clock) (offset : Int) : Int :=
  let days := daysBeforeYear moment.year + daysBeforeMonth moment.year moment.month + moment.day
  let minutes := (days * 24 + clock.hour) * 60 + clock.minute
  (((minutes * 60 + clock.second : Nat) : Int) - offset) * 1000000 + clock.millionth

/-- Whether two moments are the same. Points in time whose distances from universal time are known
are the same if they are at the same time, wherever that was. -/
def isSame (one other : Moment) : Bool :=
  match one.time, one.offset, other.time, other.offset with
  | some clock, some offset, some otherClock, some otherOffset =>
    one.instant clock offset == other.instant otherClock otherOffset
  | _, _, _, _ => one == other

end Moment

end Formulary
