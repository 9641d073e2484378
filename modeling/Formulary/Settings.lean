import Formulary.Issue
import Formulary.Json
import Formulary.Settings.Integer
import Formulary.Settings.Level

/-!
# Settings of the server

The settings are the host, the port, whether to debug, and the log level. Each one is read from a
raw value by rules of its own, which take some values for others: a port may be a text of digits, a
flag may be a word. Layers of raw values lie on one another, and what an upper layer says counts.
-/

namespace Formulary

structure Port where
  number : Int
  one_le : 1 ≤ number
  le_greatest : number ≤ 65535
  deriving DecidableEq, Repr

structure Settings where
  host : Text
  port : Port
  debug : Bool
  level : Level
  deriving DecidableEq, Repr

namespace Settings

def portOfInteger (number : Int) : Except Issue.Cause Port :=
  if low : 1 ≤ number then
    if high : number ≤ 65535 then .ok ⟨number, low, high⟩ else .error (.greaterThan 65535)
  else .error (.lessThan 1)

def portOf (value : Value) : Except Issue.Cause Port := do
  let number ← integerOf value
  portOfInteger number

/-- The host that a raw value stands for: only a text is one. -/
def hostOf : Value → Except Issue.Cause Text
  | .text host => .ok host
  | _ => .error .notText

/-- The words that stand for true and for false, in small letters. -/
def trueWords : List String := ["1", "true", "t", "yes", "y", "on"]

@[inherit_doc trueWords]
def falseWords : List String := ["0", "false", "f", "no", "n", "off"]

/-- The flag that an integer stands for: one or zero. -/
def flagOfInteger (value : Int) : Except Issue.Cause Bool :=
  if value = 1 then .ok true else if value = 0 then .ok false else .error .unreadableBool

/-- The flag that a raw value stands for. Numbers that no word of the machine holds have no type in
common with a flag. -/
def flagOf : Value → Except Issue.Cause Bool
  | .bool value => .ok value
  | .integer value => if fitsWord value then flagOfInteger value else .error .notBool
  | .real value =>
    match integerOfReal value with
    | .ok value => flagOfInteger value
    | .error _ => .error .notBool
  | .text text =>
    let word := String.ofList (Text.asciiLower text)
    if trueWords.contains word then .ok true
    else if falseWords.contains word then .ok false
    else .error .unreadableBool
  | _ => .error .notBool

def levelOf (value : Value) : Except Issue.Cause Level :=
  (Level.ofValue value).mapError .rejected

def defaults : Settings where
  host := "127.0.0.1".toList
  port := ⟨8080, by decide, by decide⟩
  debug := false
  level := .info

def readField {α : Type} (layer : Layer) (name : String) (default : α)
    (ofValue : Value → Except Issue.Cause α) : Except Issue.Cause α :=
  match layer.lookup name.toList with
  | some value => ofValue value
  | none => .ok default

def issueOf {α : Type} (name : String) : Except Issue.Cause α → List Issue
  | .ok _ => []
  | .error cause => [Issue.ofField name cause]

/-- The settings of a layer, or the issues with all of its fields in their order. -/
def ofLayer (layer : Layer) : Except (List Issue) Settings :=
  let host := readField layer "host" defaults.host hostOf
  let port := readField layer "port" defaults.port portOf
  let debug := readField layer "debug" defaults.debug flagOf
  let level := readField layer "log_level" defaults.level levelOf
  match host, port, debug, level with
  | .ok host, .ok port, .ok debug, .ok level => .ok { host, port, debug, level }
  | _, _, _, _ =>
    .error (issueOf "host" host ++ issueOf "port" port ++ issueOf "debug" debug ++
      issueOf "log_level" level)

/-- A layer with another one on it; values that are left out in the upper one do not count. -/
def overlay (lower upper : Layer) : Layer :=
  upper.foldl (fun layer entry =>
    if entry.2.isNull then layer else setField entry.1 entry.2 layer) lower

def merge (layer overrides : Layer) : Except (List Issue) Settings :=
  ofLayer (overlay layer overrides)

def toLayer (settings : Settings) : Layer :=
  [("host".toList, .text settings.host), ("port".toList, .integer settings.port.number),
   ("debug".toList, .bool settings.debug), ("log_level".toList, .text settings.level.name.toList)]

end Settings

end Formulary
