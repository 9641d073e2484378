import Formulary.Binary64.Numeral
import Formulary.Json.Printer
import Formulary.Moment
import Formulary.Text.Quoted

/-!
# Raw values of settings

A setting comes from a file, a command line or a program, in whatever type it was written in. This
module holds the values that settings may have before they are checked, and how they are shown in
complaints.
-/

namespace Formulary

inductive Value where
  | null
  | bool (value : Bool)
  | integer (value : Int)
  | real (value : Float)
  | text (value : Text)
  | moment (value : Moment)
  | list (items : List Value)
  | mapping (entries : List (Value × Value))

abbrev Layer := List (Text × Value)

namespace Value

/-- Whether a value counts as left out. -/
def isNull : Value → Bool
  | null => true
  | _ => false

/-- Whether a document with this value says nothing: it is absent, false, zero or empty. -/
def isVoid : Value → Bool
  | null => true
  | bool value => !value
  | integer value => value == 0
  | real value => value == 0.0
  | text value => value.isEmpty
  | moment _ => false
  | list items => items.isEmpty
  | mapping entries => entries.isEmpty

mutual

def display : Value → Text
  | null => "None".toList
  | bool true => "True".toList
  | bool false => "False".toList
  | integer value => Json.writeInteger value
  | real value => Binary64.write value
  | text value => Text.quoted value
  | moment value => value.display
  | list [] => ['[', ']']
  | list (item :: rest) => '[' :: (item.display ++ displayItems rest ++ [']'])
  | mapping [] => ['{', '}']
  | mapping (entry :: rest) =>
    '{' :: (entry.1.display ++ ':' :: ' ' :: entry.2.display ++ displayEntries rest ++ ['}'])

/-- How the items after the first one are shown. -/
def displayItems : List Value → Text
  | [] => []
  | item :: rest => ',' :: ' ' :: (item.display ++ displayItems rest)

def displayEntries : List (Value × Value) → Text
  | [] => []
  | entry :: rest =>
    ',' :: ' ' :: (entry.1.display ++ ':' :: ' ' :: entry.2.display ++ displayEntries rest)

end

/-- The integer that a value is equal to whatever its type, if it is no real. -/
def wholeNumber? : Value → Option Int
  | bool value => some (if value then 1 else 0)
  | integer value => some value
  | _ => none

def realEquals (real : Float) (whole : Int) : Bool :=
  let exact := Binary64.exact real
  exact.isInteger && exact.truncate? == some whole

/-- Whether two values are one number. Numbers are one if they are exactly equal, whatever their
type; what is no number is one with itself. -/
def isSameNumber (one other : Value) : Bool :=
  match one, other with
  | real one, real other => one == other || (one.isNaN && other.isNaN)
  | real one, other => other.wholeNumber?.any (realEquals one)
  | one, real other => one.wholeNumber?.any (realEquals other)
  | one, other => one.wholeNumber?.isSome && one.wholeNumber? == other.wholeNumber?

def isSameKey (one other : Value) : Bool :=
  match one, other with
  | null, null => true
  | text one, text other => one == other
  | moment one, moment other => one.isSame other
  | one, other => one.isSameNumber other

/-- Entries with one entry set: at its place if the key is there already, else at the end. -/
def setEntry (key value : Value) : List (Value × Value) → List (Value × Value)
  | [] => [(key, value)]
  | entry :: rest =>
    if entry.1.isSameKey key then (entry.1, value) :: rest
    else entry :: setEntry key value rest

def layer (entries : List (Value × Value)) : Layer :=
  entries.filterMap fun
    | (text name, value) => some (name, value)
    | _ => none

end Value

end Formulary
