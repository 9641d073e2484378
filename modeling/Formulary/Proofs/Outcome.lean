/-!
# Steps that may fail

A step is taken only if the step before it succeeds.  So two steps succeed together if both do, and
they fail with the first fault.
-/

namespace Formulary

variable {ε ε' α β : Type} {first : Except ε α} {next : α → Except ε β}

theorem bind_eq_ok_iff {result : β} :
    first >>= next = .ok result ↔ ∃ value, first = .ok value ∧ next value = .ok result := by
  cases first <;> simp [bind, Except.bind]

theorem bind_eq_error_iff {fault : ε} :
    first >>= next = .error fault ↔
      first = .error fault ∨ ∃ value, first = .ok value ∧ next value = .error fault := by
  cases first <;> simp [bind, Except.bind]

theorem map_eq_ok_iff {change : α → β} {result : β} :
    change <$> first = .ok result ↔ ∃ value, first = .ok value ∧ change value = result := by
  cases first <;> simp [Functor.map, Except.map]

theorem map_eq_error_iff {change : α → β} {fault : ε} :
    change <$> first = .error fault ↔ first = .error fault := by
  cases first <;> simp [Functor.map, Except.map]

theorem mapError_eq_ok_iff {change : ε → ε'} {value : α} :
    first.mapError change = .ok value ↔ first = .ok value := by
  constructor
  · intro hmapped
    cases first <;> cases hmapped
    rfl
  · rintro rfl
    rfl

theorem mapError_eq_error_iff {change : ε → ε'} {fault : ε'} :
    first.mapError change = .error fault ↔
      ∃ cause, first = .error cause ∧ change cause = fault := by
  constructor
  · intro hmapped
    cases first <;> cases hmapped
    exact ⟨_, rfl, rfl⟩
  · rintro ⟨cause, rfl, rfl⟩
    rfl

end Formulary
