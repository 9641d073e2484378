import Formulary.Settings.Value
import Formulary.Text.UpperCase

/-!
# Log levels

A message is logged if its level is at least the level that is set. Levels have a name and a rank;
two of them have a second name.
-/

namespace Formulary

inductive Level where
  | notSet
  | debug
  | info
  | warning
  | error
  | critical
  deriving DecidableEq, Repr

namespace Level

def all : List Level :=
  [notSet, debug, info, warning, error, critical]

def rank : Level → Int
  | notSet => 0
  | debug => 10
  | info => 20
  | warning => 30
  | error => 40
  | critical => 50

def name : Level → String
  | notSet => "NOTSET"
  | debug => "DEBUG"
  | info => "INFO"
  | warning => "WARNING"
  | error => "ERROR"
  | critical => "CRITICAL"

def ofName? (name : Text) : Option Level :=
  match String.ofList name with
  | "NOTSET" => some notSet
  | "DEBUG" => some debug
  | "INFO" => some info
  | "WARN" | "WARNING" => some warning
  | "ERROR" => some error
  | "CRITICAL" | "FATAL" => some critical
  | _ => none

/-- The level that a text names, in any case and with blanks around it. -/
def ofText? (text : Text) : Option Level :=
  ofName? (Text.upper (Text.trim text))

def ofRank? (rank : Int) : Option Level :=
  all.find? fun level => level.rank == rank

def unknown (shown : Text) : String :=
  "Unknown log level: " ++ String.ofList shown

/-- The rank that a value asks for. A number is taken as it is, a text has to name a level. -/
def rankOf : Value → Except String Int
  | .integer rank => .ok rank
  | .bool value => .ok (if value then 1 else 0)
  | .text text =>
    match ofText? text with
    | some level => .ok level.rank
    | none => .error (unknown text)
  | value => .error (unknown value.display)

/-- The level that a value asks for, which has to be a standard one. -/
def ofValue (value : Value) : Except String Level := do
  let rank ← rankOf value
  match ofRank? rank with
  | some level => return level
  | none => throw (unknown value.display)

/-- Whether messages of a level are logged where `threshold` is set. -/
def shows (threshold level : Level) : Bool :=
  threshold.rank ≤ level.rank

end Level

end Formulary
