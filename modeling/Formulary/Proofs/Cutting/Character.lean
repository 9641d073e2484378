import Formulary.Proofs.Cutting

/-!
# Characters of tokens

Each character of a well-formed token tells whether the token is a number, a name or none of both.
The only exception is the point of a number, and a point stands at neither end of it.
-/

namespace Formulary.Token

variable {token : Token} {c : Char}

/-- What a character tells about the kind of the token it belongs to. -/
structure Tells (kind : Kind) (c : Char) : Prop where
  number : c.isDigit ↔ kind = .number
  name : c.isAlpha ↔ kind = .identifier
  point : c ≠ '.'

theorem tells_of_isDigit (hdigit : c.isDigit) : Tells .number c := by
  have hletter : c.isAlpha = false := by
    rw [Bool.eq_false_iff]
    intro hletter
    simp [isDigit_eq_false_of_isAlpha hletter] at hdigit
  refine ⟨by simp [hdigit], by simp [hletter], ?_⟩
  rintro rfl
  cases hdigit

theorem tells_of_isAlpha (hletter : c.isAlpha) : Tells .identifier c := by
  refine ⟨by simp [isDigit_eq_false_of_isAlpha hletter], by simp [hletter], ?_⟩
  rintro rfl
  cases hletter

theorem tells_of_isOperatorSign (hsign : isOperatorSign c) : Tells .operator c := by
  simp only [isOperatorSign, Bool.or_eq_true, beq_iff_eq, or_assoc] at hsign
  rcases hsign with rfl | rfl | rfl | rfl | rfl <;> exact ⟨by decide, by decide, by decide⟩

theorem IsNumeral.isDigit_of_mem {text : Text} (hnumeral : IsNumeral text) (hc : c ∈ text) :
    c.isDigit ∨ c = '.' := by
  rcases hnumeral with hdigits | ⟨whole, fraction, hwhole, hfraction, rfl⟩
  · exact .inl (hdigits.2 c hc)
  · rcases List.mem_append.mp hc with hc | hc
    · exact .inl (hwhole.2 c hc)
    · exact (List.mem_cons.mp hc).symm.imp_left (hfraction.2 c)

theorem WellFormed.tells_of_mem (hwellFormed : token.WellFormed) (hc : c ∈ token.text) :
    Tells token.kind c ∨ c = '.' ∧ token.kind = .number := by
  obtain ⟨kind, text⟩ := token
  cases kind with
  | number =>
      rcases IsNumeral.isDigit_of_mem hwellFormed hc with hdigit | hpoint
      · exact .inl (tells_of_isDigit hdigit)
      · exact .inr ⟨hpoint, rfl⟩
  | identifier => exact .inl (tells_of_isAlpha (hwellFormed.2 c hc))
  | operator =>
      obtain ⟨sign, hsingle, hsign⟩ := exists_isOperatorSign hwellFormed
      obtain rfl : text = [sign] := hsingle
      obtain rfl := List.mem_singleton.mp hc
      exact .inl (tells_of_isOperatorSign hsign)
  | opener =>
      obtain rfl : text = ['('] := hwellFormed
      obtain rfl := List.mem_singleton.mp hc
      exact .inl ⟨by decide, by decide, by decide⟩
  | closer =>
      obtain rfl : text = [')'] := hwellFormed
      obtain rfl := List.mem_singleton.mp hc
      exact .inl ⟨by decide, by decide, by decide⟩

/-! ## The ends of a token -/

theorem IsDigits.exists_head {text : Text} (hdigits : IsDigits text) :
    ∃ c more, text = c :: more ∧ c.isDigit := by
  obtain ⟨c, more, rfl⟩ := List.exists_cons_of_ne_nil hdigits.1
  exact ⟨c, more, rfl, hdigits.2 c List.mem_cons_self⟩

theorem IsDigits.exists_last {text : Text} (hdigits : IsDigits text) :
    ∃ front c, text = front ++ [c] ∧ c.isDigit := by
  obtain ⟨front, c, rfl⟩ := (List.eq_nil_or_concat text).resolve_left hdigits.1
  exact ⟨front, c, List.concat_eq_append, hdigits.2 c (by simp)⟩

theorem IsNumeral.exists_head {text : Text} (hnumeral : IsNumeral text) :
    ∃ c more, text = c :: more ∧ c.isDigit := by
  rcases hnumeral with hdigits | ⟨whole, fraction, hwhole, -, rfl⟩
  · exact hdigits.exists_head
  · obtain ⟨c, more, rfl, hdigit⟩ := hwhole.exists_head
    exact ⟨c, _, rfl, hdigit⟩

theorem IsNumeral.exists_last {text : Text} (hnumeral : IsNumeral text) :
    ∃ front c, text = front ++ [c] ∧ c.isDigit := by
  rcases hnumeral with hdigits | ⟨whole, fraction, -, hfraction, rfl⟩
  · exact hdigits.exists_last
  · obtain ⟨front, c, rfl, hdigit⟩ := hfraction.exists_last
    exact ⟨whole ++ '.' :: front, c, by simp, hdigit⟩

theorem WellFormed.ne_nil (hwellFormed : token.WellFormed) : token.text ≠ [] := by
  intro hempty
  have hmunch := munch_text hwellFormed
  rw [hempty] at hmunch
  cases hmunch

theorem WellFormed.exists_head (hwellFormed : token.WellFormed) :
    ∃ c more, token.text = c :: more ∧ Tells token.kind c := by
  by_cases hkind : token.kind = .number
  · simp only [WellFormed, hkind] at hwellFormed
    obtain ⟨c, more, htext, hdigit⟩ := hwellFormed.exists_head
    exact ⟨c, more, htext, hkind ▸ tells_of_isDigit hdigit⟩
  · obtain ⟨c, more, htext⟩ := List.exists_cons_of_ne_nil hwellFormed.ne_nil
    have hc : c ∈ token.text := by simp [htext]
    exact ⟨c, more, htext, (hwellFormed.tells_of_mem hc).resolve_right fun hpoint => hkind hpoint.2⟩

theorem WellFormed.exists_last (hwellFormed : token.WellFormed) :
    ∃ front c, token.text = front ++ [c] ∧ Tells token.kind c := by
  by_cases hkind : token.kind = .number
  · simp only [WellFormed, hkind] at hwellFormed
    obtain ⟨front, c, htext, hdigit⟩ := hwellFormed.exists_last
    exact ⟨front, c, htext, hkind ▸ tells_of_isDigit hdigit⟩
  · obtain ⟨front, c, htext⟩ := (List.eq_nil_or_concat token.text).resolve_left hwellFormed.ne_nil
    have hc : c ∈ token.text := by simp [htext]
    exact ⟨front, c, htext.trans List.concat_eq_append,
      (hwellFormed.tells_of_mem hc).resolve_right fun hpoint => hkind hpoint.2⟩

end Formulary.Token
