import Formulary.Catalogue
import Formulary.Proofs.Archive
import Formulary.Proofs.Canonical

/-!
# What a text is put on record as

A text and its trimmed form are read alike.  What is put on record for a text therefore carries a
source text that stands for the same tree, and submitting that source text again gives the same.
-/

namespace Formulary

theorem Expr.parse_trim (text : Text) : parse text.trim = parse text := by
  rw [parse, Token.ofText_congr (Text.squeeze_trim text), ← parse]

namespace Submission

variable {text : Text} {submission : Submission}

/-- A submission has the trimmed text and the canonical text of the tree that is read. -/
theorem exists_tree_of_ofText (hsubmission : ofText text = .ok submission) :
    submission.source = text.trim ∧
      ∃ tree, Expr.parse text = .ok tree ∧ submission.canonical = tree.canonical := by
  unfold ofText at hsubmission
  split at hsubmission
  · cases hsubmission
  · simp only [bind_eq_ok_iff] at hsubmission
    obtain ⟨tokens, htokens, listing, hlisting, tree, htree, hmade⟩ := hsubmission
    cases hmade
    refine ⟨rfl, tree, ?_, rfl⟩
    rw [← Expr.parse_trim, Expr.parse_eq_ok_iff]
    refine ⟨tokens, htokens, Expr.ofTokens_eq_ok_iff.mpr ⟨listing, hlisting, ?_⟩⟩
    exact Expr.ofListing_eq_ok_iff.mp htree

theorem ofText_trim (text : Text) : ofText text.trim = ofText text := by
  unfold ofText
  rw [Text.allBlank_trim, Text.trim_trim]

/-- The source text of a submission is submitted as that submission. -/
theorem ofText_source (hsubmission : ofText text = .ok submission) :
    ofText submission.source = .ok submission := by
  rw [(exists_tree_of_ofText hsubmission).1, ofText_trim, hsubmission]

/-- A text that is not blank is submitted exactly if it is read, and else fails as its reading
does. -/
theorem canonical_ofText (hsolid : text.allBlank = false) :
    canonical <$> ofText text = Expr.canonical <$> Expr.parse text := by
  rw [← Expr.parse_trim, ofText, if_neg (by simp [hsolid]), Expr.parse]
  simp only [Expr.ofTokens, ← bind_pure_comp, bind_assoc, pure_bind]

theorem allBlank_eq_false_of_parse {tree : Expr} (hparse : Expr.parse text = .ok tree) :
    text.allBlank = false := by
  obtain ⟨tokens, htokens, -⟩ := Expr.parse_eq_ok_iff.mp hparse
  rw [Text.allBlank_eq_isEmpty_squeeze]
  simpa using (Token.ofText_eq_ok_iff.mp htokens).1

theorem exists_of_parse {tree : Expr} (hparse : Expr.parse text = .ok tree) :
    ∃ submission, ofText text = .ok submission := by
  have hcanonical := canonical_ofText (allBlank_eq_false_of_parse hparse)
  rw [hparse] at hcanonical
  cases hsubmission : ofText text with
  | error fault => rw [hsubmission] at hcanonical; cases hcanonical
  | ok submission => exact ⟨submission, rfl⟩

/-- Canonical texts are equal exactly for texts that are read as the same tree. -/
theorem canonical_eq_iff {other : Text} {otherSubmission : Submission}
    (hsubmission : ofText text = .ok submission) (hother : ofText other = .ok otherSubmission) :
    submission.canonical = otherSubmission.canonical ↔ Expr.parse text = Expr.parse other := by
  obtain ⟨-, tree, htree, heq⟩ := exists_tree_of_ofText hsubmission
  obtain ⟨-, otherTree, hotherTree, hotherEq⟩ := exists_tree_of_ofText hother
  rw [heq, hotherEq, htree, hotherTree]
  constructor
  · intro hcanonical
    have hwellFormed := Expr.wellFormed_of_parse htree
    have hotherWellFormed := Expr.wellFormed_of_parse hotherTree
    rw [Expr.canonical_injective hwellFormed hotherWellFormed hcanonical]
  · intro hsame
    cases hsame
    rfl

def entry (submission : Submission) (id : Nat) : Entry where
  id := id
  source := submission.source
  kinds := submission.kinds
  canonical := submission.canonical

/-- No submission is rejected by the archive. -/
theorem toEntry_draft (submission : Submission) (id : Nat) :
    submission.draft.toEntry id = .ok (submission.entry id) :=
  Archive.toEntry_ofParts submission.source submission.kinds submission.canonical id

end Submission

end Formulary
