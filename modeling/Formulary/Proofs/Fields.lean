import Formulary.Json
import Mathlib.Data.List.Nodup

/-!
# Fields of records

Setting a field adds its name unless the name is there already, so a record that is built field by
field has every name once.
-/

namespace Formulary

variable {α : Type} {name other : Text} {value : α} {fields : List (Text × α)}

theorem names_setField (name : Text) (value : α) (fields : List (Text × α)) :
    (setField name value fields).map Prod.fst =
      if name ∈ fields.map Prod.fst then fields.map Prod.fst
      else fields.map Prod.fst ++ [name] := by
  induction fields with
  | nil => rfl
  | cons field rest ih =>
      rw [setField]
      by_cases hsame : field.1 = name
      · simp [hsame]
      · rw [if_neg hsame, List.map_cons, ih]
        by_cases hmem : name ∈ rest.map Prod.fst <;> simp [hmem, Ne.symm hsame]

theorem mem_names_setField :
    other ∈ (setField name value fields).map Prod.fst ↔
      other ∈ fields.map Prod.fst ∨ other = name := by
  rw [names_setField]
  by_cases hmem : name ∈ fields.map Prod.fst
  · rw [if_pos hmem]
    constructor
    · exact .inl
    · rintro (hother | rfl)
      · exact hother
      · exact hmem
  · rw [if_neg hmem, List.mem_append, List.mem_singleton]

theorem nodup_names_setField (hnodup : (fields.map Prod.fst).Nodup) :
    ((setField name value fields).map Prod.fst).Nodup := by
  rw [names_setField]
  by_cases hmem : name ∈ fields.map Prod.fst
  · rwa [if_pos hmem]
  · rw [if_neg hmem, List.nodup_append]
    refine ⟨hnodup, List.nodup_singleton name, ?_⟩
    rintro other hother _ hadded rfl
    exact hmem (List.mem_singleton.mp hadded ▸ hother)

theorem lookup_setField_self (name : Text) (value : α) (fields : List (Text × α)) :
    (setField name value fields).lookup name = some value := by
  induction fields with
  | nil => simp [setField]
  | cons field rest ih =>
      rw [setField]
      by_cases hsame : field.1 = name
      · simp [hsame]
      · rw [if_neg hsame, List.lookup_cons, ih, beq_eq_false_iff_ne.mpr (Ne.symm hsame)]

theorem lookup_setField_of_ne (hother : other ≠ name) (value : α) (fields : List (Text × α)) :
    (setField name value fields).lookup other = fields.lookup other := by
  induction fields with
  | nil => simp [setField, List.lookup_cons, beq_eq_false_iff_ne.mpr hother]
  | cons field rest ih =>
      rw [setField]
      by_cases hsame : field.1 = name
      · rw [if_pos hsame, List.lookup_cons, List.lookup_cons, hsame, beq_eq_false_iff_ne.mpr hother]
      · rw [if_neg hsame, List.lookup_cons, ih, List.lookup_cons]

section Collected

variable {Item : Type} (key : Item → Text) (valueOf : Item → α)

theorem mem_names_collected {items : List Item} :
    other ∈ (items.foldl (fun fields item => setField (key item) (valueOf item) fields) fields).map
        Prod.fst ↔
      other ∈ fields.map Prod.fst ∨ ∃ item ∈ items, other = key item := by
  induction items generalizing fields with
  | nil => simp
  | cons item rest ih =>
      rw [List.foldl_cons, ih, mem_names_setField]
      simp [or_assoc]

theorem nodup_names_collected (items : List Item) (hnodup : (fields.map Prod.fst).Nodup) :
    ((items.foldl (fun fields item => setField (key item) (valueOf item) fields) fields).map
      Prod.fst).Nodup := by
  induction items generalizing fields with
  | nil => exact hnodup
  | cons item rest ih => exact ih (nodup_names_setField hnodup)

end Collected

def Json.fields? : Json → Option (List (Text × Json))
  | .record fields => some fields
  | _ => none

theorem Json.fields?_eq_some_iff {json : Json} {fields : List (Text × Json)} :
    json.fields? = some fields ↔ json = .record fields := by
  cases json <;> simp [fields?]

/-- The value of a field, where a value is a record and has the field. -/
def Json.field? (name : String) (json : Json) : Option Json :=
  json.fields?.bind fun fields => fields.lookup name.toList

/-- A field of a record is found by its name as it was written. -/
theorem Json.field?_object (name : String) (fields : List (String × Json)) :
    (object fields).field? name = fields.lookup name := by
  simp only [object, field?, fields?, Option.bind_some]
  induction fields with
  | nil => rfl
  | cons field rest ih =>
      have hname : (name.toList == field.1.toList) = (name == field.1) := by
        rw [Bool.eq_iff_iff, beq_iff_eq, beq_iff_eq, String.toList_inj]
      rw [List.map_cons, List.lookup_cons, List.lookup_cons, ih, hname]

end Formulary
