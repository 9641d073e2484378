import Formulary.Binary64.Exact
import Formulary.Text

/-!
# JSON values

The values that requests bring and answers carry. The fields of a record keep their order and have
different names.
-/

namespace Formulary

/-- A JSON value; numbers without a point or an exponent are exact integers. -/
inductive Json where
  | null
  | bool (value : Bool)
  | integer (value : Int)
  | real (value : Float)
  | string (value : Text)
  | list (items : List Json)
  | record (fields : List (Text × Json))

/-- Fields with one field set: at its place if the name is there already, else at the end. -/
def setField {α : Type} (name : Text) (value : α) : List (Text × α) → List (Text × α)
  | [] => [(name, value)]
  | field :: rest =>
    if field.1 = name then (name, value) :: rest else field :: setField name value rest

namespace Json

def ofString (text : String) : Json :=
  string text.toList

def ofTexts (texts : List Text) : Json :=
  list (texts.map string)

def object (fields : List (String × Json)) : Json :=
  record (fields.map fun field => (field.1.toList, field.2))

/-- The value of a double. JSON has no numbers for the infinite ones and for no number, so words
stand for them. -/
def ofDouble (x : Float) : Json :=
  match Binary64.exact x with
  | .nan => ofString "NaN"
  | .infinite negative => ofString (if negative then "-Infinity" else "Infinity")
  | .finite .. => real x

end Json

end Formulary
