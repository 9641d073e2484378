import Formulary.Binary64.Reading
import Formulary.Json
import Formulary.Text.Hexadecimal

/-!
# Reading JSON

A text is read as one JSON value with blanks around it. Beside the numbers of the standard, the
words for the infinities and for no number are read; of two fields with one name the last one
counts. Whatever else breaks the grammar, no value is read.
-/

namespace Formulary.Json

def skipSpace (text : Text) : Text :=
  text.dropWhile fun c => c == ' ' || c == '\t' || c == '\n' || c == '\r'

def codeUnit? (a b c d : Char) : Option Nat := do
  let first ← Text.hexValue? a
  let second ← Text.hexValue? b
  let third ← Text.hexValue? c
  let fourth ← Text.hexValue? d
  return ((first * 16 + second) * 16 + third) * 16 + fourth

def escaped? : Char → Option Char
  | '"' => some '"'
  | '\\' => some '\\'
  | '/' => some '/'
  | 'b' => some '\x08'
  | 'f' => some '\x0c'
  | 'n' => some '\n'
  | 'r' => some '\r'
  | 't' => some '\t'
  | _ => none

/-- Read on inside quotation marks, where the code units `found` are read, last one first. Outside
the escapes every character counts as one unit. -/
def readQuoted (found : List Nat) : Text → Option (List Nat × Text)
  | '"' :: rest => some (found.reverse, rest)
  | '\\' :: 'u' :: a :: b :: c :: d :: rest =>
    match codeUnit? a b c d with
    | some unit => readQuoted (unit :: found) rest
    | none => none
  | '\\' :: c :: rest =>
    match escaped? c with
    | some char => readQuoted (char.toNat :: found) rest
    | none => none
  | c :: rest => if c < ' ' || c == '\\' then none else readQuoted (c.toNat :: found) rest
  | [] => none

def joinUnit (unit : Nat) : Char :=
  if 0xD800 ≤ unit ∧ unit ≤ 0xDFFF then '\uFFFD' else Char.ofNat unit

/-- The characters of code units. Two halves of a pair make one character; a half without its other
half becomes the replacement character. -/
def joinUnits : List Nat → Text
  | [] => []
  | high :: low :: rest =>
    if 0xD800 ≤ high ∧ high ≤ 0xDBFF ∧ 0xDC00 ≤ low ∧ low ≤ 0xDFFF then
      Char.ofNat (0x10000 + (high - 0xD800) * 0x400 + (low - 0xDC00)) :: joinUnits rest
    else
      joinUnit high :: joinUnits (low :: rest)
  | [unit] => [joinUnit unit]

/-- A text in quotation marks, the first of which is read already. -/
def readString (text : Text) : Option (Text × Text) :=
  (readQuoted [] text).map fun (units, rest) => (joinUnits units, rest)

/-- An integer in front of a text: an optional minus sign and digits without a zero in front. -/
def splitInteger? (text : Text) : Option (Bool × Text × Text) :=
  let (negative, unsigned) :=
    match text with
    | '-' :: rest => (true, rest)
    | rest => (false, rest)
  match unsigned with
  | '0' :: rest => some (negative, ['0'], rest)
  | rest =>
    let figures := rest.takeWhile Char.isDigit
    if figures.isEmpty then none else some (negative, figures, rest.dropWhile Char.isDigit)

/-- A point with digits behind it in front of a text; without digits there is no fraction. -/
def splitFraction (text : Text) : Text × Text :=
  match text with
  | '.' :: rest =>
    let figures := rest.takeWhile Char.isDigit
    if figures.isEmpty then ([], text) else (figures, rest.dropWhile Char.isDigit)
  | _ => ([], text)

def splitExponent (text : Text) : Option Int × Text :=
  match text with
  | mark :: rest =>
    let (negative, unsigned) := Binary64.splitSign rest
    let figures := unsigned.takeWhile Char.isDigit
    if (mark == 'e' || mark == 'E') && !figures.isEmpty then
      let size : Int := Binary64.value figures
      (some (if negative then -size else size), unsigned.dropWhile Char.isDigit)
    else (none, text)
  | _ => (none, text)

def readNumber (text : Text) : Option (Json × Text) := do
  let (negative, whole, rest) ← splitInteger? text
  let (fraction, rest) := splitFraction rest
  let (exponent, rest) := splitExponent rest
  if fraction.isEmpty && exponent.isNone then
    let size : Int := Binary64.value whole
    return (integer (if negative then -size else size), rest)
  else
    let size := Binary64.Decimal.toFloat
      ⟨Binary64.value (whole ++ fraction), exponent.getD 0 - fraction.length⟩
    return (real (if negative then -size else size), rest)

def words : List (String × Json) :=
  [("null", null), ("true", bool true), ("false", bool false), ("NaN", real Binary64.nan),
   ("Infinity", real (Binary64.infinity false)), ("-Infinity", real (Binary64.infinity true))]

def readScalar (text : Text) : Option (Json × Text) :=
  match words.find? fun word => word.1.toList.isPrefixOf text with
  | some (word, value) => some (value, text.drop word.length)
  | none => readNumber text

mutual

/-- A value in front of a text. The count bounds the characters and brackets still to be read. -/
def readValue : Nat → Text → Option (Json × Text)
  | 0, _ => none
  | _ + 1, '"' :: rest => (readString rest).map fun (value, after) => (string value, after)
  | count + 1, '[' :: rest =>
    match skipSpace rest with
    | ']' :: after => some (list [], after)
    | after => readItems count [] after
  | count + 1, '{' :: rest =>
    match skipSpace rest with
    | '}' :: after => some (record [], after)
    | after => readFields count [] after
  | _ + 1, text => readScalar text

/-- Items up to the end of their list, behind the items `found`, last one first. -/
def readItems : Nat → List Json → Text → Option (Json × Text)
  | 0, _, _ => none
  | count + 1, found, text =>
    match readValue count text with
    | none => none
    | some (item, rest) =>
      match skipSpace rest with
      | ',' :: after => readItems count (item :: found) (skipSpace after)
      | ']' :: after => some (list (item :: found).reverse, after)
      | _ => none

def readFields : Nat → List (Text × Json) → Text → Option (Json × Text)
  | 0, _, _ => none
  | count + 1, found, text =>
    match text with
    | '"' :: quoted =>
      match readString quoted with
      | none => none
      | some (name, rest) =>
        match skipSpace rest with
        | ':' :: rest =>
          match readValue count (skipSpace rest) with
          | none => none
          | some (value, rest) =>
            match skipSpace rest with
            | ',' :: after => readFields count (setField name value found) (skipSpace after)
            | '}' :: after => some (record (setField name value found), after)
            | _ => none
        | _ => none
    | _ => none

end

def read? (text : Text) : Option Json :=
  let body := skipSpace text
  match readValue (2 * body.length + 1) body with
  | some (value, rest) => if (skipSpace rest).isEmpty then some value else none
  | none => none

end Formulary.Json
