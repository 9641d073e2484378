import Formulary.Proofs.Canonical
import Formulary.Proofs.Rpn.Balance
import Formulary.Proofs.Submission

/-!
# Malformed formulas

A text that is not read is malformed, and nothing else goes wrong with it.  The operators of a text
are tokens whose binding strength is known, so the arrangement never asks for another one.  It drops
each parenthesis when its partner arrives, so none gets into a listing, where the tree is built.
-/

namespace Formulary

variable {fault : Fault}

def Fault.IsMalformed (fault : Fault) : Prop :=
  ∃ cause, fault = .malformed cause

/-! ## Tokens -/

namespace Token

theorem isMalformed_of_ofText {text : Text} (htext : ofText text = .error fault) :
    fault.IsMalformed := by
  cases hsolid : text.allBlank with
  | true =>
      simp only [ofText, hsolid, if_pos] at htext
      cases htext
      exact ⟨_, rfl⟩
  | false =>
      rw [ofText_eq_scan hsolid] at htext
      obtain ⟨_, _, rfl⟩ := illegalCharacter_of_scan htext
      exact ⟨_, rfl⟩

end Token

/-! ## Arrangement -/

namespace Rpn

theorem known_of_wellFormed {tokens : List Token} (htokens : ∀ token ∈ tokens, token.WellFormed) :
    Known tokens := by
  intro token htoken hkind
  simpa [Token.WellFormed, hkind] using htokens token htoken

theorem Verdict.isMalformed {nested : Option Nat}
    (hverdict : Verdict nested (.error fault)) : fault.IsMalformed := by
  cases hverdict with
  | unopened => exact ⟨_, rfl⟩
  | unclosed => exact ⟨_, rfl⟩

theorem isMalformed_of_ofInfix {tokens : List Token}
    (htokens : ∀ token ∈ tokens, token.WellFormed)
    (harranged : ofInfix tokens = .error fault) : fault.IsMalformed := by
  by_cases hne : tokens = []
  · subst hne
    cases harranged
    exact ⟨_, rfl⟩
  · have hverdict := verdict_ofInfix hne (known_of_wellFormed htokens)
    rw [harranged] at hverdict
    exact hverdict.isMalformed

end Rpn

/-! ## Building -/

namespace Expr

theorem isMalformed_of_build {tokens : List Token} {finished : List Expr}
    (htokens : ∀ token ∈ tokens, ¬ token.kind.isParen)
    (hbuild : build tokens finished = .error fault) : fault.IsMalformed := by
  fun_induction build tokens finished with
  | case1 => cases hbuild
  | case2 =>
      cases hbuild
      exact ⟨_, rfl⟩
  | case3 token rest finished _ ih | case4 token rest finished _ ih =>
      exact ih (List.forall_mem_cons.mp htokens).2 hbuild
  | case5 token rest _ right left finished ih =>
      exact ih (List.forall_mem_cons.mp htokens).2 hbuild
  | case6 =>
      cases hbuild
      exact ⟨_, rfl⟩
  | case7 token rest finished hkind | case8 token rest finished hkind =>
      have htoken := (List.forall_mem_cons.mp htokens).1
      simp [hkind, Token.Kind.isParen] at htoken

theorem isMalformed_of_ofListing {tokens : List Token}
    (htokens : ∀ token ∈ tokens, ¬ token.kind.isParen)
    (hlisting : ofListing tokens = .error fault) : fault.IsMalformed := by
  unfold ofListing at hlisting
  split at hlisting
  · cases hlisting
    exact ⟨_, rfl⟩
  · exact isMalformed_of_build htokens hlisting

/-- A text that is not read is malformed. -/
theorem isMalformed_of_parse {text : Text} (hparse : parse text = .error fault) :
    fault.IsMalformed := by
  rcases bind_eq_error_iff.mp hparse with htokens | ⟨tokens, htokens, hrest⟩
  · exact Token.isMalformed_of_ofText htokens
  · have hwellFormed := (Token.ofText_eq_ok_iff.mp htokens).2.wellFormed
    rcases bind_eq_error_iff.mp hrest with harranged | ⟨listing, harranged, hlisting⟩
    · exact Rpn.isMalformed_of_ofInfix hwellFormed harranged
    · exact isMalformed_of_ofListing (Rpn.not_isParen_of_ofInfix harranged) hlisting

end Expr

/-- A text that is not blank is put on record or malformed. -/
theorem Submission.isMalformed_of_ofText {text : Text} (hsolid : text.allBlank = false)
    (hfault : ofText text = .error fault) : fault.IsMalformed := by
  have hcanonical := canonical_ofText hsolid
  rw [hfault] at hcanonical
  cases hparse : Expr.parse text with
  | ok tree =>
      rw [hparse] at hcanonical
      cases hcanonical
  | error cause =>
      rw [hparse] at hcanonical
      cases hcanonical
      exact Expr.isMalformed_of_parse hparse

end Formulary
