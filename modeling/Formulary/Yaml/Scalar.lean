import Formulary.Settings.Value
import Formulary.Text.Hexadecimal
import Formulary.Text.Marks
import Formulary.Yaml.Fault
import Formulary.Yaml.Moment

/-!
# What plain scalars denote

A plain scalar denotes a flag, a number, nothing, a date or, where it has the form of none of them,
its own text. Integers may be binary, octal, decimal, hexadecimal or in sixties; reals need a point.
-/

namespace Formulary.Yaml

/-- The words for true and for false, each in three casings. -/
def trueWords : List String :=
  ["yes", "Yes", "YES", "true", "True", "TRUE", "on", "On", "ON"]

@[inherit_doc trueWords]
def falseWords : List String :=
  ["no", "No", "NO", "false", "False", "FALSE", "off", "Off", "OFF"]

def nullWords : List String :=
  ["", "~", "null", "Null", "NULL"]

def isNumeral (base : Nat) (text : Text) : Bool :=
  text.all fun c => c == '_' || (Text.hexValue? c).any (· < base)

def numeral (base : Nat) (figures : Text) : Nat :=
  figures.foldl (fun total c => base * total + (Text.hexValue? c).getD 0) 0

def splitColons (text : Text) : List Text :=
  text.splitOn ':'

/-- Whether a text is one digit, or two of which the first one is at most five. -/
def isSixtieth (text : Text) : Bool :=
  match text with
  | [c] => c.isDigit
  | [c, d] => '0' ≤ c && c ≤ '5' && d.isDigit
  | _ => false

/-- A text that begins with a digit, other than zero if `positive` is set, and goes on with digits
and marks `_`. -/
def isWhole (positive : Bool) (text : Text) : Bool :=
  match text with
  | c :: rest => c.isDigit && !(positive && c == '0') && isNumeral 10 rest
  | [] => false

def natural? (text : Text) : Option (Except Fault Nat) :=
  let based (base : Nat) (figures : Text) : Option (Except Fault Nat) :=
    if figures.isEmpty || !isNumeral base figures then none
    else if (Text.dropMarks figures).isEmpty then
      some (.error (.badScalar
        ("invalid literal for int() with base " ++ toString base ++ ": ''")))
    else some (.ok (numeral base (Text.dropMarks figures)))
  match text with
  | ['0'] => some (.ok 0)
  | '0' :: 'b' :: figures => based 2 figures
  | '0' :: 'x' :: figures => based 16 figures
  | '0' :: figures =>
    if isNumeral 8 figures then some (.ok (numeral 8 (Text.dropMarks figures))) else none
  | text =>
    match splitColons text with
    | [] => none
    | first :: sixtieths =>
      if isWhole true first && sixtieths.all isSixtieth then
        some (.ok ((first :: sixtieths).foldl
          (fun total part => 60 * total + Binary64.value (Text.dropMarks part)) 0))
      else none

def integer? (text : Text) : Option (Except Fault Int) :=
  let (negative, size) := Binary64.splitSign text
  (natural? size).map fun result =>
    result.map fun size => if negative then -(size : Int) else size

def isExponent (text : Text) : Bool :=
  match text with
  | [] => true
  | mark :: sign :: figures =>
    (mark == 'e' || mark == 'E') && (sign == '+' || sign == '-') && !figures.isEmpty &&
      figures.all Char.isDigit
  | _ => false

/-- A double that is read from digits with a point and marks `_`. -/
def readReal? (text : Text) : Option Float :=
  Binary64.read? (Text.dropMarks text)

/-- A sum of parts from the last one on, each one times a power of sixty that begins with `base`. A
power that no double is near has no product. -/
def sumSixties (total : Float) (base : Nat) : List Float → Except Fault Float
  | [] => .ok total
  | part :: rest =>
    match Binary64.ofInt? base with
    | some weight => sumSixties (total + part * weight) (base * 60) rest
    | none => .error (.tooLarge "int too large to convert to float")

/-- The value of parts in sixties, the last of which has a fraction. -/
def sixties (parts : List Float) : Except Fault Float :=
  sumSixties 0.0 1 parts.reverse

def size? (text : Text) : Option (Except Fault Float) :=
  let whole := text.takeWhile (· != '.')
  match text.dropWhile (· != '.') with
  | [] => none
  | _ :: behind =>
    let fraction := behind.takeWhile fun c => c.isDigit || c == '_'
    let rest := behind.dropWhile fun c => c.isDigit || c == '_'
    if whole.isEmpty then none
    else if isWhole false whole && isExponent rest then (readReal? text).map .ok
    else
      match splitColons whole with
      | first :: second :: more =>
        if isWhole false first && (second :: more).all isSixtieth && rest.isEmpty then
          ((splitColons (whole ++ '.' :: fraction)).mapM readReal?).map sixties
        else none
      | _ => none

/-- The real that a plain scalar denotes. One that begins with its point has no sign. -/
def real? (text : Text) : Option (Except Fault Float) :=
  let (negative, unsigned) := Binary64.splitSign text
  let signed (size : Float) : Float := if negative then -size else size
  let word := String.ofList unsigned
  if word == ".inf" || word == ".Inf" || word == ".INF" then
    some (.ok (signed (Binary64.infinity false)))
  else
    match text with
    | '.' :: c :: rest =>
      if c.isDigit then
        if isExponent (rest.dropWhile fun c => c.isDigit || c == '_') then
          (readReal? text).map .ok
        else none
      else if [".nan", ".NaN", ".NAN"].contains (String.ofList text) then
        some (.ok Binary64.nan)
      else none
    | _ => (size? unsigned).map fun size => size.map signed

/-- What a plain scalar denotes. The signs for a merge and for a default value denote nothing that
a setting may be. -/
def denote (text : Text) : Except Fault Value :=
  let word := String.ofList text
  if trueWords.contains word then .ok (.bool true)
  else if falseWords.contains word then .ok (.bool false)
  else if nullWords.contains word then .ok .null
  else if word == "<<" || word == "=" then .error .unreadable
  else
    match real? text, integer? text, moment? text with
    | some found, _, _ => found.map .real
    | none, some found, _ => found.map .integer
    | none, none, some moment =>
      match moment.flaw? with
      | some complaint => .error (.badScalar complaint)
      | none => .ok (.moment moment)
    | none, none, none => .ok (.text text)

end Formulary.Yaml
