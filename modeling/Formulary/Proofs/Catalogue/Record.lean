import Formulary.Proofs.Catalogue

/-!
# What a catalogue has on record

An entry is put together from two readings of its text: one for the tree and its canonical text, one
for the kinds of its tokens.  Both tell of the same tree, because the kinds in reverse Polish order
can be read off it.  A tree is put on record only if its canonical text is not there yet, so no two
entries stand for the same tree.
-/

namespace Formulary

/-! ## Different canonical texts -/

namespace Archive

variable {archive : Archive} {draft : Draft} {entry : Entry}

def Distinct (archive : Archive) : Prop :=
  archive.entries.Pairwise fun left right => left.canonical ≠ right.canonical

theorem distinct_empty : Distinct empty :=
  .nil

theorem distinct_clear (archive : Archive) : archive.clear.Distinct :=
  .nil

theorem Distinct.insert (hdistinct : archive.Distinct) (hcoherent : archive.Coherent)
    (hentry : draft.toEntry archive.nextId = .ok entry)
    (habsent : archive.findByCanonical entry.canonical = .ok none) :
    (archive.insert draft).2.Distinct := by
  rw [hcoherent.findByCanonical_eq, Except.ok.injEq, List.find?_eq_none] at habsent
  rw [Distinct, entries_insert, hentry, List.pairwise_append]
  refine ⟨hdistinct, List.pairwise_singleton _ _, ?_⟩
  intro earlier hearlier added hadded
  rw [List.mem_singleton.mp hadded]
  simpa using habsent earlier hearlier

end Archive

namespace Submission

variable {text : Text} {submission : Submission} {tree : Expr}

/-- The kinds of a submission are those of the tree that is read. -/
theorem kinds_eq_of_ofText (hsubmission : ofText text = .ok submission)
    (hparse : Expr.parse text = .ok tree) : submission.kinds = tree.kinds := by
  unfold ofText at hsubmission
  split at hsubmission
  · cases hsubmission
  · simp only [bind_eq_ok_iff] at hsubmission
    obtain ⟨tokens, htokens, listing, hlisting, other, hother, hmade⟩ := hsubmission
    have hlisted := Expr.ofListing_eq_ok_iff.mp hother
    have hread : Expr.parse text.trim = .ok other := by
      rw [Expr.parse_eq_ok_iff]
      exact ⟨tokens, htokens, Expr.ofTokens_eq_ok_iff.mpr ⟨listing, hlisting, hlisted⟩⟩
    obtain rfl : other = tree := by
      rw [Expr.parse_trim, hparse] at hread
      exact (Except.ok.inj hread).symm
    cases hmade
    exact hlisted.kinds_eq (hlisted.wellFormed_of_ofText htokens hlisting)

end Submission

/-! ## Runs -/

namespace Catalogue

variable {archive : Archive} {commands : List Command}

/-- The archive is sound, and each canonical text is on record at most once. -/
structure Deduplicated (archive : Archive) : Prop where
  sound : Sound archive
  distinct : archive.Distinct

theorem deduplicated_empty : Deduplicated .empty where
  sound := sound_empty
  distinct := Archive.distinct_empty

theorem Deduplicated.insert (hdeduplicated : Deduplicated archive) {text : Text}
    {submission : Submission} (hsubmission : Submission.ofText text = .ok submission)
    (habsent : archive.findByCanonical submission.canonical = .ok none) :
    Deduplicated (archive.insert submission.draft).2 where
  sound := hdeduplicated.sound.insert hsubmission
  distinct := hdeduplicated.distinct.insert hdeduplicated.sound.coherent
    (submission.toEntry_draft archive.nextId) habsent

theorem Deduplicated.clear (hdeduplicated : Deduplicated archive) :
    Deduplicated archive.clear where
  sound := hdeduplicated.sound.clear
  distinct := Archive.distinct_clear archive

theorem Deduplicated.perform (hdeduplicated : Deduplicated archive) (command : Command) :
    Deduplicated (perform command archive).2 := by
  rcases perform_archive command archive with
    hsame | ⟨text, submission, hsubmission, habsent, hinserted⟩ | ⟨-, hcleared⟩
  · rwa [hsame]
  · rw [hinserted]
    exact hdeduplicated.insert hsubmission habsent
  · rw [hcleared]
    exact hdeduplicated.clear

theorem Deduplicated.store (hdeduplicated : Deduplicated archive) (text : Text) :
    Deduplicated (store text archive).2 := by
  have hlater := hdeduplicated.perform (.store (some text))
  rwa [perform_store] at hlater

theorem deduplicated_stateAt (commands : List Command) (position : Nat) :
    Deduplicated (stateAt commands position) :=
  Run.stateAt_invariant deduplicated_empty
    (fun command _ hdeduplicated => hdeduplicated.perform command) commands position

/-- Where canonical texts are different, so are the trees. -/
theorem Deduplicated.pairwise_parse_ne (hdeduplicated : Deduplicated archive) :
    archive.entries.Pairwise fun left right =>
      Expr.parse left.source ≠ Expr.parse right.source := by
  refine hdeduplicated.distinct.imp_of_mem ?_
  intro left right hleft hright hdiffer hsame
  have hfaithful := hdeduplicated.sound.faithful
  exact hdiffer ((Submission.canonical_eq_iff (hfaithful left hleft) (hfaithful right hright)).mpr
    hsame)

/-- Entries of one tree are the same. -/
theorem Deduplicated.eq_of_parse_eq (hdeduplicated : Deduplicated archive) {entry other : Entry}
    (hentry : entry ∈ archive.entries) (hother : other ∈ archive.entries)
    (hparse : Expr.parse entry.source = Expr.parse other.source) : entry = other := by
  by_contra hdiffer
  have hsymmetric : Std.Symm fun left right : Entry =>
      Expr.parse left.source ≠ Expr.parse right.source := ⟨fun _ _ hne => hne.symm⟩
  exact hdeduplicated.pairwise_parse_ne.forall hentry hother hdiffer hparse

/-- The source text of an entry is read as one tree, which its canonical text and its kinds are
those of. -/
theorem Sound.exists_tree (hsound : Sound archive) {entry : Entry}
    (hentry : entry ∈ archive.entries) :
    ∃ tree, Expr.parse entry.source = .ok tree ∧ entry.canonical = tree.canonical ∧
      entry.kinds = tree.kinds := by
  have hsubmission := hsound.faithful entry hentry
  obtain ⟨-, tree, hparse, hcanonical⟩ := Submission.exists_tree_of_ofText hsubmission
  exact ⟨tree, hparse, hcanonical, Submission.kinds_eq_of_ofText hsubmission hparse⟩

/-- In every state of a run the source text of each entry is trimmed and not blank, and it is read
as a tree.  The canonical text of the entry is that of the tree, and its kinds are those of the
tokens that list the tree, none of which is a parenthesis.  No two entries have equal trees. -/
theorem record_of_trees (commands : List Command) (position : Nat) :
    (∀ entry ∈ (stateAt commands position).entries,
      entry.source.allBlank = false ∧ entry.source.trim = entry.source ∧
        ∃ tree, Expr.parse entry.source = .ok tree ∧ entry.canonical = tree.canonical ∧
          entry.kinds = tree.kinds ∧ ∀ kind ∈ entry.kinds, ¬ kind.isParen) ∧
      (stateAt commands position).entries.Pairwise fun left right =>
        Expr.parse left.source ≠ Expr.parse right.source := by
  have hsound := sound_stateAt commands position
  refine ⟨?_, (deduplicated_stateAt commands position).pairwise_parse_ne⟩
  intro entry hentry
  obtain ⟨tree, hparse, hcanonical, hkinds⟩ := hsound.exists_tree hentry
  obtain ⟨htrim, -⟩ := Submission.exists_tree_of_ofText (hsound.faithful entry hentry)
  refine ⟨Submission.allBlank_eq_false_of_parse hparse, htrim.symm, tree, hparse, hcanonical,
    hkinds, ?_⟩
  rw [hkinds]
  exact fun kind => Expr.not_isParen_of_mem_kinds

/-- A formula with superfluous parentheses, a text that is none, and the formula without them. -/
def regrouped : List Command :=
  [.store (some " (2*(x)) ^y ".toList), .store (some "2*".toList), .store (some "(2*x)^y".toList)]

/-- What all three texts leave on record is the first one, trimmed. -/
def regroupedEntry : Entry where
  id := 1
  source := "(2*(x)) ^y".toList
  kinds := [.number, .identifier, .operator, .identifier, .operator]
  canonical := "((2*x)^y)".toList

theorem record_of_trees_regrouped :
    (stateAt regrouped 3).entries = [regroupedEntry] ∧
      regroupedEntry.source.allBlank = false ∧
      regroupedEntry.source.trim = regroupedEntry.source ∧
      ∃ tree, Expr.parse regroupedEntry.source = .ok tree ∧
        regroupedEntry.canonical = tree.canonical ∧ regroupedEntry.kinds = tree.kinds ∧
        ∀ kind ∈ regroupedEntry.kinds, ¬ kind.isParen := by
  have hentries : (stateAt regrouped 3).entries = [regroupedEntry] := by decide +kernel
  have hentry : regroupedEntry ∈ (stateAt regrouped 3).entries := by
    rw [hentries]
    exact List.mem_singleton_self _
  exact ⟨hentries, (record_of_trees regrouped 3).1 regroupedEntry hentry⟩

end Catalogue

end Formulary
