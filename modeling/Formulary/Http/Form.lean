import Formulary.Expr.Evaluation
import Formulary.Issue
import Formulary.Json

/-!
# The bodies of requests

A request to store brings a text, a request to evaluate brings values for variables. Both are
checked before the catalogue sees them.
-/

namespace Formulary.Http

/-- The fields of a body, which has to be a record. -/
def fieldsOf (name : String) : Json → Except (List Issue) (List (Text × Json))
  | .record fields => .ok fields
  | _ => .error [⟨[], .notRecord name⟩]

def requiredField (name : String) (fields : List (Text × Json)) : Except (List Issue) Json :=
  match fields.lookup name.toList with
  | some value => .ok value
  | none => .error [Issue.ofField name .missing]

/-- The formula that a body brings to be stored: a text that is not blank. -/
def formulaOf (body : Json) : Except (List Issue) Text := do
  let fields ← fieldsOf "StoreEquationRequest" body
  let value ← requiredField "equation" fields
  match value with
  | .string text =>
    if text.allBlank then
      throw [Issue.ofField "equation" (.rejected "Equation cannot be blank")]
    else return text
  | _ => throw [Issue.ofField "equation" .notText]

def doubleOf : Json → Except Issue.Cause Float
  | .real value => .ok value
  | .bool value => .ok (if value then 1.0 else 0.0)
  | .integer value =>
    match (Binding.integer value).read with
    | .ok nearest => .ok nearest
    | .error _ => .error .notNumber
  | .string text =>
    match Binary64.readField? text with
    | some value => .ok value
    | none => .error .unreadableNumber
  | _ => .error .notNumber

def variableIssues (fields : List (Text × Json)) : List Issue :=
  fields.filterMap fun field =>
    match doubleOf field.2 with
    | .ok _ => none
    | .error cause => some ⟨[.field "variables".toList, .field field.1], cause⟩

/-- The values of variables that a body brings: a record of numbers that is not empty. -/
def variablesOf (body : Json) : Except (List Issue) (List (Text × Float)) := do
  let fields ← fieldsOf "EvaluateEquationRequest" body
  let value ← requiredField "variables" fields
  match value with
  | .record [] =>
    throw [Issue.ofField "variables" (.rejected "Variables map cannot be empty")]
  | .record fields =>
    let values := fields.filterMap fun field =>
      match doubleOf field.2 with
      | .ok value => some (field.1, value)
      | .error _ => none
    match variableIssues fields with
    | [] => return values
    | issues => throw issues
  | _ => throw [Issue.ofField "variables" .notMapping]

end Formulary.Http
