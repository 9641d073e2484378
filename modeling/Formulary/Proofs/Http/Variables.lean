import Formulary.Http.Desk
import Formulary.Proofs.Fields

/-!
# Values of variables in requests

The values that a request brings are either all read as doubles, under the same names, or each one
that cannot be read makes an issue.  The issues are filed under the names, so no two fall together.
-/

namespace Formulary.Http

variable {values : List (Text × Json)} {bindings : List (Text × Float)} {name : Text}

/-! ## Readings -/

/-- A name stands for a value that no double can be read from. -/
def Unreadable (values : List (Text × Json)) (name : Text) : Prop :=
  ∃ value cause, (name, value) ∈ values ∧ doubleOf value = .error cause

/-- The doubles that are read from values, under the same names. -/
def ReadAs (values : List (Text × Json)) (bindings : List (Text × Float)) : Prop :=
  List.Forall₂ (fun field binding => field.1 = binding.1 ∧ doubleOf field.2 = .ok binding.2) values
    bindings

theorem mem_variableIssues_iff {issue : Issue} :
    issue ∈ variableIssues values ↔
      ∃ name value cause, (name, value) ∈ values ∧ doubleOf value = .error cause ∧
        issue = ⟨[.field "variables".toList, .field name], cause⟩ := by
  rw [variableIssues, List.mem_filterMap]
  constructor
  · rintro ⟨⟨name, value⟩, hfield, hissue⟩
    dsimp only at hissue
    split at hissue
    next => cases hissue
    next cause hcause =>
        cases hissue
        exact ⟨name, value, cause, hfield, hcause, rfl⟩
  · rintro ⟨name, value, cause, hfield, hcause, rfl⟩
    refine ⟨(name, value), hfield, ?_⟩
    simp only [hcause]

theorem variableIssues_ne_nil (hunreadable : Unreadable values name) :
    variableIssues values ≠ [] := by
  obtain ⟨value, cause, hvalue, hcause⟩ := hunreadable
  exact List.ne_nil_of_mem (mem_variableIssues_iff.mpr ⟨name, value, cause, hvalue, hcause, rfl⟩)

theorem names_of_readAs (hread : ReadAs values bindings) :
    bindings.map Prod.fst = values.map Prod.fst := by
  induction hread with
  | nil => rfl
  | cons hfield _ ih => rw [List.map_cons, List.map_cons, hfield.1, ih]

theorem variableIssues_of_readAs (hread : ReadAs values bindings) : variableIssues values = [] := by
  induction hread with
  | nil => rfl
  | cons hfield _ ih =>
      rw [variableIssues, List.filterMap_cons, hfield.2]
      exact ih

/-- Values can be read, unless one of them cannot. -/
theorem unreadable_or_readAs (values : List (Text × Json)) :
    (∃ name, Unreadable values name) ∨ ∃ bindings, ReadAs values bindings := by
  induction values with
  | nil => exact .inr ⟨[], .nil⟩
  | cons field rest ih =>
      cases hvalue : doubleOf field.2 with
      | error cause => exact .inl ⟨field.1, field.2, cause, List.mem_cons_self, hvalue⟩
      | ok value =>
          rcases ih with ⟨name, other, cause, hother, hcause⟩ | ⟨bindings, hread⟩
          · exact .inl ⟨name, other, cause, List.mem_cons_of_mem _ hother, hcause⟩
          · exact .inr ⟨(field.1, value) :: bindings, .cons ⟨rfl, hvalue⟩ hread⟩

theorem filterMap_of_readAs (hread : ReadAs values bindings) :
    (values.filterMap fun field =>
      match doubleOf field.2 with
      | .ok value => some (field.1, value)
      | .error _ => none) = bindings := by
  induction hread with
  | nil => rfl
  | cons hfield _ ih =>
      rw [List.filterMap_cons, hfield.2, hfield.1]
      exact congrArg _ ih

section Variables

variable {fields : List (Text × Json)}
variable (hfields : fields.lookup "variables".toList = some (.record values))

include hfields

theorem variablesOf_of_readAs (hvalues : values ≠ []) (hread : ReadAs values bindings) :
    variablesOf (.record fields) = .ok bindings := by
  have hbindings := filterMap_of_readAs hread
  have hissues := variableIssues_of_readAs hread
  cases values with
  | nil => exact absurd rfl hvalues
  | cons field rest =>
      simp only [variablesOf, fieldsOf, requiredField, hfields, bind, Except.bind, hissues]
      exact congrArg Except.ok hbindings

theorem variablesOf_of_unreadable (hunreadable : Unreadable values name) :
    variablesOf (.record fields) = .error (variableIssues values) := by
  have hissues := variableIssues_ne_nil hunreadable
  cases values with
  | nil => exact absurd rfl hissues
  | cons field rest =>
      simp only [variablesOf, fieldsOf, requiredField, hfields, bind, Except.bind]
      rfl

end Variables

/-! ## What issues are filed under -/

theorem mem_names_fieldErrors_iff {issues : List Issue} {key : Text} :
    key ∈ (Problem.fieldErrors issues).map Prod.fst ↔
      ∃ issue ∈ issues, key = Problem.issueKey issue := by
  rw [Problem.fieldErrors, mem_names_collected]
  simp

theorem nodup_names_fieldErrors (issues : List Issue) :
    ((Problem.fieldErrors issues).map Prod.fst).Nodup :=
  nodup_names_collected _ _ issues .nil

theorem issueKey_variable (name : Text) (cause : Issue.Cause) :
    Problem.issueKey ⟨[.field "variables".toList, .field name], cause⟩ =
      "variables.".toList ++ name := by
  have hplace : Issue.place ⟨[.field "variables".toList, .field name], cause⟩ =
      "variables.".toList ++ name := by
    simp [Issue.place, Issue.Step.write, List.intercalate]
  rw [Problem.issueKey, hplace, if_neg]
  simp

end Formulary.Http
