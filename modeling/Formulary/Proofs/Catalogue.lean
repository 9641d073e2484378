import Formulary.Proofs.Evaluation
import Formulary.Proofs.Run
import Formulary.Proofs.Submission

/-!
# Runs of the catalogue

A catalogue keeps the first spelling of a formula and answers later spellings with its id.  Since
canonical texts tell trees apart, whoever evaluates under that id gets the value of the text that
was stored.  The invariant is that every entry on record is what its own source text is submitted
as; a command either lets the archive grow or clears it.
-/

namespace Formulary.Catalogue

variable {archive : Archive} {text : Text} {submission : Submission} {commands : List Command}

/-! ## Storing -/

theorem store_of_fault {fault : Fault} (hfault : Submission.ofText text = .error fault) :
    store text archive = (.error fault, archive) := by
  simp only [store, Store.ofText, hfault, Store.step, Store.result]

theorem store_of_found {entry : Entry} (hsubmission : Submission.ofText text = .ok submission)
    (hfound : archive.findByCanonical submission.canonical = .ok (some entry)) :
    store text archive = (.ok entry.id, archive) := by
  simp only [store, Store.ofText, hsubmission, Store.step, hfound, Store.result]

theorem store_of_absent (hsubmission : Submission.ofText text = .ok submission)
    (habsent : archive.findByCanonical submission.canonical = .ok none) :
    store text archive = (.ok archive.nextId, (archive.insert submission.draft).2) := by
  have hsearch : archive.search submission.draft.canonical = .ok none := habsent
  have hinsert :=
    Archive.insertIfAbsent_of_absent hsearch (submission.toEntry_draft archive.nextId)
  simp only [store, Store.ofText, hsubmission, Store.step, habsent, hinsert, Store.result,
    Submission.entry]

theorem store_of_failed_search {fault : Fault}
    (hsubmission : Submission.ofText text = .ok submission)
    (hfailed : archive.findByCanonical submission.canonical = .error fault) :
    store text archive = (.error fault, archive) := by
  simp only [store, Store.ofText, hsubmission, Store.step, hfailed, Store.result]

/-- Storing leaves the archive alone or inserts a submission whose canonical text is not on
record. -/
theorem store_archive (text : Text) (archive : Archive) :
    (store text archive).2 = archive ∨
      ∃ submission, Submission.ofText text = .ok submission ∧
        archive.findByCanonical submission.canonical = .ok none ∧
        (store text archive).2 = (archive.insert submission.draft).2 := by
  cases hsubmission : Submission.ofText text with
  | error fault =>
      rw [store_of_fault hsubmission]
      exact .inl rfl
  | ok submission =>
      cases hsearch : archive.findByCanonical submission.canonical with
      | error fault =>
          rw [store_of_failed_search hsubmission hsearch]
          exact .inl rfl
      | ok found =>
          cases found with
          | some entry =>
              rw [store_of_found hsubmission hsearch]
              exact .inl rfl
          | none =>
              rw [store_of_absent hsubmission hsearch]
              exact .inr ⟨submission, rfl, hsearch, rfl⟩

/-! ## The invariant -/

/-- What an entry on record was submitted as. -/
def recorded (entry : Entry) : Submission where
  source := entry.source
  kinds := entry.kinds
  canonical := entry.canonical

/-- The archive is coherent, and every entry is what its source text is submitted as. -/
structure Sound (archive : Archive) : Prop where
  coherent : archive.Coherent
  faithful : ∀ entry ∈ archive.entries, Submission.ofText entry.source = .ok (recorded entry)

theorem sound_empty : Sound Archive.empty where
  coherent := Archive.coherent_empty
  faithful := by simp [Archive.empty, Archive.entries]

theorem Sound.insert (hsound : Sound archive)
    (hsubmission : Submission.ofText text = .ok submission) :
    Sound (archive.insert submission.draft).2 where
  coherent := hsound.coherent.insert submission.draft
  faithful := by
    rw [Archive.entries_insert, submission.toEntry_draft]
    intro entry hentry
    rcases List.mem_append.mp hentry with hentry | hentry
    · exact hsound.faithful entry hentry
    · obtain rfl : entry = submission.entry archive.nextId := by
        simpa [Except.toOption] using hentry
      exact Submission.ofText_source hsubmission

theorem Sound.clear (hsound : Sound archive) : Sound archive.clear where
  coherent := hsound.coherent.clear
  faithful := by simp [Archive.clear, Archive.entries]

def Reply.ofStore : Except Fault Nat → Reply
  | .ok given => .id given
  | .error fault => .failed fault

theorem perform_store (text : Option Text) (archive : Archive) :
    (perform (.store text) archive).2 = (store (Text.ofOption text) archive).2 := by
  simp only [perform]
  split <;> simp_all

theorem perform_store_reply (text : Option Text) (archive : Archive) :
    (perform (.store text) archive).1 = .ofStore (store (Text.ofOption text) archive).1 := by
  simp only [perform]
  split <;> simp_all [Reply.ofStore]

theorem perform_evaluate_archive (id : Option Int) (environment : Option Environment)
    (archive : Archive) : (perform (.evaluate id environment) archive).2 = archive := by
  simp only [perform]
  split <;> rfl

/-- A command leaves the archive alone, inserts a submission that is not on record, or clears the
archive. -/
theorem perform_archive (command : Command) (archive : Archive) :
    (perform command archive).2 = archive ∨
      (∃ text submission, Submission.ofText text = .ok submission ∧
        archive.findByCanonical submission.canonical = .ok none ∧
        (perform command archive).2 = (archive.insert submission.draft).2) ∨
      command = .clear ∧ (perform command archive).2 = archive.clear := by
  cases command with
  | store text =>
      rw [perform_store]
      rcases store_archive (Text.ofOption text) archive with hsame | hinserted
      · exact .inl hsame
      · exact .inr (.inl ⟨Text.ofOption text, hinserted⟩)
  | evaluate id environment => exact .inl (perform_evaluate_archive id environment archive)
  | all => exact .inl rfl
  | summaries => exact .inl rfl
  | entry id => exact .inl rfl
  | clear => exact .inr (.inr ⟨rfl, rfl⟩)

theorem Sound.perform (hsound : Sound archive) (command : Command) :
    Sound (perform command archive).2 := by
  rcases perform_archive command archive with
    hsame | ⟨text, submission, hsubmission, -, hinserted⟩ | ⟨-, hcleared⟩
  · rwa [hsame]
  · rw [hinserted]
    exact hsound.insert hsubmission
  · rw [hcleared]
    exact hsound.clear

/-- Only clearing takes anything off the record. -/
theorem grows_perform {command : Command} (hcommand : command ≠ .clear) (archive : Archive) :
    archive.Grows (perform command archive).2 := by
  rcases perform_archive command archive with
    hsame | ⟨text, submission, -, -, hinserted⟩ | ⟨hclear, -⟩
  · rw [hsame]
    exact .refl archive
  · rw [hinserted]
    exact Archive.grows_insert submission.draft archive
  · exact absurd hclear hcommand

theorem grows_store (text : Text) (archive : Archive) :
    archive.Grows (store text archive).2 := by
  have hgrows := grows_perform (by simp : Command.store (some text) ≠ .clear) archive
  rwa [perform_store] at hgrows

/-- No command takes the next id back, or gives an id again. -/
theorem follows_perform (command : Command) (archive : Archive) :
    archive.Follows (perform command archive).2 := by
  rcases perform_archive command archive with
    hsame | ⟨text, submission, -, -, hinserted⟩ | ⟨-, hcleared⟩
  · rw [hsame]
    exact .refl archive
  · rw [hinserted]
    exact Archive.follows_insert submission.draft archive
  · rw [hcleared]
    exact Archive.follows_clear archive

/-! ## How a store ends -/

/-- How a store may end: the text is refused, its tree is on record already, or an entry is made. -/
inductive StoreEnd (archive : Archive) (text : Text) : Except Fault Nat → Archive → Prop
  | refused {fault : Fault} (hfault : Submission.ofText text = .error fault) :
      StoreEnd archive text (.error fault) archive
  | known {tree : Expr} {entry : Entry} (hparse : Expr.parse text = .ok tree)
      (hentry : entry ∈ archive.entries) (hsource : Expr.parse entry.source = .ok tree) :
      StoreEnd archive text (.ok entry.id) archive
  | added {tree : Expr} {submission : Submission} (hparse : Expr.parse text = .ok tree)
      (hsubmission : Submission.ofText text = .ok submission)
      (hnew : ∀ entry ∈ archive.entries, Expr.parse entry.source ≠ .ok tree) :
      StoreEnd archive text (.ok archive.nextId) (archive.insert submission.draft).2

theorem storeEnd (hsound : Sound archive) (text : Text) :
    StoreEnd archive text (store text archive).1 (store text archive).2 := by
  cases hsubmission : Submission.ofText text with
  | error fault =>
      rw [store_of_fault hsubmission]
      exact .refused hsubmission
  | ok submission =>
      obtain ⟨-, tree, htree, -⟩ := Submission.exists_tree_of_ofText hsubmission
      have hsame (entry : Entry) (hentry : entry ∈ archive.entries) :
          entry.canonical = submission.canonical ↔ Expr.parse entry.source = .ok tree := by
        rw [← htree]
        exact Submission.canonical_eq_iff (hsound.faithful entry hentry) hsubmission
      have hsearch := hsound.coherent.findByCanonical_eq submission.canonical
      cases hfound : archive.entries.find? fun entry => entry.canonical == submission.canonical with
      | some entry =>
          rw [hfound] at hsearch
          rw [store_of_found hsubmission hsearch]
          have hentry := List.mem_of_find?_eq_some hfound
          have hcanonical := List.find?_some hfound
          exact .known htree hentry ((hsame entry hentry).mp (by simpa using hcanonical))
      | none =>
          rw [hfound] at hsearch
          rw [store_of_absent hsubmission hsearch]
          apply StoreEnd.added htree hsubmission
          intro entry hentry hsource
          have habsent := List.find?_eq_none.mp hfound entry hentry
          exact habsent (by simpa using (hsame entry hentry).mpr hsource)

/-- A text that is read is stored. -/
theorem exists_id_of_store (hsound : Sound archive) {tree : Expr}
    (hparse : Expr.parse text = .ok tree) : ∃ id, (store text archive).1 = .ok id := by
  have hend := storeEnd hsound text
  generalize (store text archive).1 = result at hend
  generalize (store text archive).2 = later at hend
  cases hend with
  | refused hfault =>
      obtain ⟨submission, hsubmission⟩ := Submission.exists_of_parse hparse
      rw [hsubmission] at hfault
      cases hfault
  | known => exact ⟨_, rfl⟩
  | added => exact ⟨_, rfl⟩

/-- What a store has on record it found there or answers. -/
theorem mem_entries_store (hsound : Sound archive) {entry : Entry}
    (hentry : entry ∈ (store text archive).2.entries) :
    entry ∈ archive.entries ∨ (store text archive).1 = .ok entry.id := by
  have hend := storeEnd hsound text
  generalize (store text archive).1 = result at hend ⊢
  generalize (store text archive).2 = later at hend hentry
  cases hend with
  | refused => exact .inl hentry
  | known => exact .inl hentry
  | @added tree submission =>
      rw [Archive.entries_insert, submission.toEntry_draft] at hentry
      rcases List.mem_append.mp hentry with hentry | hentry
      · exact .inl hentry
      · obtain rfl : entry = submission.entry archive.nextId := by
          simpa [Except.toOption] using hentry
        exact .inr rfl

/-- The entry that is answered for a text stands for the tree of the text. -/
theorem exists_entry_of_store {id : Nat} (hsound : Sound archive)
    (hstore : (store text archive).1 = .ok id) :
    ∃ entry ∈ (store text archive).2.entries, entry.id = id ∧
      ∃ tree, Expr.parse entry.source = .ok tree ∧ Expr.parse text = .ok tree := by
  have hend := storeEnd hsound text
  rw [hstore] at hend
  generalize (store text archive).2 = later at hend
  cases hend with
  | known hparse hentry hsource => exact ⟨_, hentry, rfl, _, hsource, hparse⟩
  | @added tree submission hparse hsubmission =>
      obtain ⟨hsource, -⟩ := Submission.exists_tree_of_ofText hsubmission
      refine ⟨submission.entry archive.nextId, ?_, rfl, tree, ?_, hparse⟩
      · exact Archive.mem_entries_insert (submission.toEntry_draft archive.nextId)
      · rw [Submission.entry, hsource, Expr.parse_trim, hparse]

theorem perform_store_eq_id_iff {text : Option Text} {id : Nat} :
    (perform (.store text) archive).1 = .id id ↔
      (store (Text.ofOption text) archive).1 = .ok id := by
  rw [perform_store_reply]
  cases (store (Text.ofOption text) archive).1 <;> simp [Reply.ofStore]

theorem Sound.store (hsound : Sound archive) (text : Text) : Sound (store text archive).2 := by
  have hend := storeEnd hsound text
  generalize (Catalogue.store text archive).1 = result at hend
  generalize (Catalogue.store text archive).2 = later at hend ⊢
  cases hend with
  | refused => exact hsound
  | known => exact hsound
  | added _ hsubmission => exact hsound.insert hsubmission

/-! ## Evaluating -/

/-- An evaluation under an id fails because nothing is found, or because of the environment. -/
theorem evaluate_fault (hsound : Sound archive) {id : Int} {environment : Environment}
    {fault : Fault} (hfault : evaluate (some id) (some environment) archive = .error fault) :
    fault = .notFound id ∨ fault.OfEnvironment environment := by
  unfold evaluate at hfault
  cases hfound : archive.findById id with
  | none =>
      simp only [hfound] at hfault
      cases hfault
      exact .inl rfl
  | some entry =>
      obtain ⟨hentry, -⟩ := hsound.coherent.findById_eq_some_iff.mp hfound
      obtain ⟨-, tree, hparse, -⟩ :=
        Submission.exists_tree_of_ofText (hsound.faithful entry hentry)
      simp only [hfound, hparse] at hfault
      have hwellFormed := Expr.wellFormed_of_parse hparse
      exact .inr (Expr.ofEnvironment_of_evaluate environment hwellFormed hfault)

/-! ## Runs -/

abbrev stateAt : List Command → Nat → Archive :=
  Run.stateAt perform .empty

abbrev replies : List Command → List Reply :=
  Run.replies perform .empty

theorem sound_stateAt (commands : List Command) (position : Nat) :
    Sound (stateAt commands position) :=
  Run.stateAt_invariant sound_empty (fun command _ hsound => hsound.perform command) commands
    position

/-- Right after an id was answered for a text, an entry with the tree of the text is on record under
the id. -/
theorem exists_entry_of_reply {position id : Nat} {text : Option Text}
    (hstored : commands[position]? = some (.store text))
    (hreply : (replies commands)[position]? = some (.id id)) :
    ∃ entry ∈ (stateAt commands (position + 1)).entries, entry.id = id ∧
      ∃ tree, Expr.parse entry.source = .ok tree ∧
        Expr.parse (Text.ofOption text) = .ok tree := by
  rw [Run.getElem?_replies hstored, Option.some.injEq] at hreply
  have hstore := perform_store_eq_id_iff.mp hreply
  rw [stateAt, Run.stateAt_succ hstored, perform_store]
  exact exists_entry_of_store (sound_stateAt commands position) hstore

/-- As long as nothing is cleared, the archive only grows. -/
theorem grows_stateAt {first last : Nat} (hle : first ≤ last)
    (hclear : ∀ position, first ≤ position → position < last → commands[position]? ≠ some .clear) :
    (stateAt commands first).Grows (stateAt commands last) := by
  apply Run.stateAt_induction hle (.refl _)
  intro position command archive hfrom hto hcommand hgrows
  refine hgrows.trans (grows_perform ?_ archive)
  rintro rfl
  exact hclear position hfrom hto hcommand

theorem follows_stateAt {first last : Nat} (hle : first ≤ last) :
    (stateAt commands first).Follows (stateAt commands last) := by
  apply Run.stateAt_induction hle (.refl _)
  intro _ command archive _ _ _ hfollows
  exact hfollows.trans (follows_perform command archive)

end Formulary.Catalogue
