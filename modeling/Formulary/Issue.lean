import Formulary.Text

/-!
# Issues with the fields of a record

Where a record from outside is checked, all of its fields are, and each bad value becomes an issue:
where it stands and what is wrong with it.
-/

namespace Formulary

/-- A step on the way to a value: into a field or into an item of a list. -/
inductive Issue.Step where
  | field (name : Text)
  | item (index : Nat)
  deriving DecidableEq, Repr

inductive Issue.Cause where
  | missing
  | notText
  | notTokenKind
  | notInteger
  | unreadableInteger
  | fractionalInteger
  | oversizedInteger
  | notFinite
  | lessThan (bound : Int)
  | greaterThan (bound : Int)
  | notBool
  | unreadableBool
  | notNumber
  | unreadableNumber
  | notMapping
  | notRecord (name : String)
  | frozen
  /-- A rule of the record's own is broken; the complaint is worded by the rule. -/
  | rejected (complaint : String)
  deriving DecidableEq, Repr

/-- A bad value: the way to it and what is wrong with it. -/
structure Issue where
  path : List Issue.Step
  cause : Issue.Cause
  deriving DecidableEq, Repr

namespace Issue

def Cause.name : Cause → String
  | missing => "missing"
  | notText => "string_type"
  | notTokenKind => "enum"
  | notInteger => "int_type"
  | unreadableInteger => "int_parsing"
  | fractionalInteger => "int_from_float"
  | oversizedInteger => "int_parsing_size"
  | notFinite => "finite_number"
  | lessThan _ => "greater_than_equal"
  | greaterThan _ => "less_than_equal"
  | notBool => "bool_type"
  | unreadableBool => "bool_parsing"
  | notNumber => "float_type"
  | unreadableNumber => "float_parsing"
  | notMapping => "dict_type"
  | notRecord _ => "model_type"
  | frozen => "frozen_instance"
  | rejected _ => "value_error"

/-- The wording of an issue, without the mark of a rejected value. -/
def Cause.complaint : Cause → String
  | missing => "Field required"
  | notText => "Input should be a valid string"
  | notTokenKind => "Input should be 'NUMBER', 'VARIABLE', 'OPERATOR', 'LPAREN' or 'RPAREN'"
  | notInteger => "Input should be a valid integer"
  | unreadableInteger => "Input should be a valid integer, unable to parse string as an integer"
  | fractionalInteger => "Input should be a valid integer, got a number with a fractional part"
  | oversizedInteger => "Unable to parse input string as an integer, exceeded maximum size"
  | notFinite => "Input should be a finite number"
  | lessThan bound => "Input should be greater than or equal to " ++ toString bound
  | greaterThan bound => "Input should be less than or equal to " ++ toString bound
  | notBool => "Input should be a valid boolean"
  | unreadableBool => "Input should be a valid boolean, unable to interpret input"
  | notNumber => "Input should be a valid number"
  | unreadableNumber => "Input should be a valid number, unable to parse string as a number"
  | notMapping => "Input should be a valid dictionary"
  | notRecord name => "Input should be a valid dictionary or instance of " ++ name
  | frozen => "Instance is frozen"
  | rejected complaint => complaint

def Cause.message : Cause → String
  | rejected complaint => "Value error, " ++ complaint
  | cause => cause.complaint

def ofField (name : String) (cause : Cause) : Issue :=
  ⟨[.field name.toList], cause⟩

def Step.write : Step → Text
  | field name => name
  | item index => Nat.toDigits 10 index

/-- The way to a value, with points between its steps. -/
def place (issue : Issue) : Text :=
  ['.'].intercalate (issue.path.map Step.write)

end Issue

end Formulary
