import Formulary.Proofs.Archive.Run

/-!
# What the searches of an archive find

In every state that a run of commands leads to, the index holds exactly the canonical texts that are
on record and leads from each to the entry with the smallest id, which is the one that came first.
So a search never misses an entry that is there, the listing shows every entry once and in the order
of the ids, and a draft that is rejected leaves no trace in any answer.
-/

namespace Formulary.Archive

variable {archive : Archive} {entry : Entry} {canonical : Text}

/-! ## First entries -/

/-- Of the entries on record with a canonical text, this one has the smallest id. -/
structure IsFirst (archive : Archive) (canonical : Text) (entry : Entry) : Prop where
  recorded : entry ∈ archive.entries
  named : entry.canonical = canonical
  smallest : ∀ other ∈ archive.entries, other.canonical = canonical → entry.id ≤ other.id

theorem Coherent.isFirst_of_find? (hcoherent : archive.Coherent)
    (hfound : (archive.entries.find? fun entry => entry.canonical == canonical) = some entry) :
    archive.IsFirst canonical entry := by
  obtain ⟨hnamed, before, behind, hentries, hbefore⟩ := List.find?_eq_some_iff_append.mp hfound
  have hascending := hcoherent.ascending
  rw [hentries, List.pairwise_append, List.pairwise_cons] at hascending
  refine ⟨List.mem_of_find?_eq_some hfound, by simpa using hnamed, ?_⟩
  intro other hother hsame
  rw [hentries, List.mem_append, List.mem_cons] at hother
  rcases hother with hother | rfl | hother
  · exact absurd hsame (by simpa using hbefore other hother)
  · exact Nat.le_refl _
  · exact Nat.le_of_lt (hascending.2.1.1 other hother)

theorem Coherent.find?_eq_some_iff (hcoherent : archive.Coherent) :
    (archive.entries.find? fun entry => entry.canonical == canonical) = some entry ↔
      archive.IsFirst canonical entry := by
  constructor
  · exact hcoherent.isFirst_of_find?
  · intro hfirst
    cases hfound : archive.entries.find? fun entry => entry.canonical == canonical with
    | none =>
        have hnone := List.find?_eq_none.mp hfound entry hfirst.recorded
        exact absurd (by simpa using hfirst.named) hnone
    | some found =>
        have hother := hcoherent.isFirst_of_find? hfound
        have hle := hother.smallest entry hfirst.recorded hfirst.named
        have hge := hfirst.smallest found hother.recorded hother.named
        rw [hcoherent.eq_of_id_eq hother.recorded hfirst.recorded (Nat.le_antisymm hle hge)]

theorem Coherent.findByCanonical_eq_some_iff (hcoherent : archive.Coherent) :
    archive.findByCanonical canonical = .ok (some entry) ↔ archive.IsFirst canonical entry := by
  rw [hcoherent.findByCanonical_eq, Except.ok.injEq, hcoherent.find?_eq_some_iff]

theorem Coherent.lookup_index_eq_some_iff (hcoherent : archive.Coherent) {id : Nat} :
    archive.index.lookup canonical = some id ↔
      ∃ entry, archive.IsFirst canonical entry ∧ entry.id = id := by
  rw [hcoherent.indexed, Option.map_eq_some_iff]
  simp only [hcoherent.find?_eq_some_iff]

/-- A canonical text is in the index exactly if it is on record. -/
theorem Coherent.isSome_lookup_index (hcoherent : archive.Coherent) (canonical : Text) :
    (archive.index.lookup canonical).isSome ↔
      ∃ entry ∈ archive.entries, entry.canonical = canonical := by
  rw [hcoherent.indexed, Option.isSome_map, List.find?_isSome]
  simp

theorem Coherent.nodup_keys (hcoherent : archive.Coherent) :
    (archive.records.map Prod.fst).Nodup := by
  have hkeys : archive.records.map Prod.fst = archive.entries.map Entry.id := by
    rw [entries, List.map_map]
    exact List.map_congr_left fun record hrecord => (hcoherent.labelled record hrecord).symm
  rw [hkeys, List.Nodup, List.pairwise_map]
  exact hcoherent.ascending.imp fun hless => Nat.ne_of_lt hless

theorem Coherent.nodup_entries (hcoherent : archive.Coherent) : archive.entries.Nodup := by
  apply hcoherent.ascending.imp
  rintro left right hless rfl
  exact Nat.lt_irrefl _ hless

/-! ## Failures -/

/-- The index of a coherent archive leads only to ids that are on record. -/
theorem Coherent.search_ok (hcoherent : archive.Coherent) (canonical : Option Text) :
    ∃ found, archive.search canonical = .ok found := by
  cases canonical with
  | none => exact ⟨none, rfl⟩
  | some canonical => exact ⟨_, hcoherent.findByCanonical_eq canonical⟩

theorem Coherent.insertIfAbsent_ne_fault (hcoherent : archive.Coherent) (draft : Draft)
    (fault : Fault) : (archive.insertIfAbsent draft).1 ≠ .error (.fault fault) := by
  obtain ⟨found, hsearch⟩ := hcoherent.search_ok draft.canonical
  cases found with
  | some entry =>
      rw [insertIfAbsent_of_found hsearch]
      exact nofun
  | none =>
      cases hentry : draft.toEntry archive.nextId with
      | ok entry =>
          rw [insertIfAbsent_of_absent hsearch hentry]
          exact nofun
      | error issues =>
          rw [insertIfAbsent_of_issues hsearch hentry]
          exact nofun

theorem askById_eq_failed {id : Option Int} {fault : Fault}
    (hasked : archive.askById id = .failed fault) : fault = .badArgument .noEntryId := by
  cases id with
  | none => exact (Reply.failed.inj hasked).symm
  | some id => cases hasked

theorem Coherent.perform_eq_failed (hcoherent : archive.Coherent) {command : Command}
    {fault : Fault} (hreply : (perform command archive).1 = .failed fault) :
    fault = .badArgument .noEntryId := by
  cases command with
  | insert draft =>
      simp only [perform] at hreply
      split at hreply <;> cases hreply
  | insertIfAbsent draft =>
      simp only [perform] at hreply
      split at hreply
      · cases hreply
      · cases hreply
      · next hinsert =>
          exact absurd (congrArg Prod.fst hinsert) (hcoherent.insertIfAbsent_ne_fault draft _)
  | findByCanonical canonical =>
      obtain ⟨found, hsearch⟩ := hcoherent.search_ok canonical
      simp only [perform, hsearch] at hreply
      cases hreply
  | findById id => exact askById_eq_failed hreply
  | entries | size | clear => cases hreply
  | revise id =>
      simp only [perform] at hreply
      split at hreply
      · cases hreply
      · exact askById_eq_failed hreply

/-- In a run of commands only an id that is missing makes a command fail; no search does. -/
theorem fault_of_failed_reply {commands : List Command} {position : Nat} {fault : Fault}
    (hreply : (replies commands)[position]? = some (.failed fault)) :
    fault = .badArgument .noEntryId := by
  obtain ⟨command, -, hperform⟩ := Run.exists_input_of_reply hreply
  exact (coherent_stateAt commands position).perform_eq_failed hperform.symm

/-! ## Rejected drafts -/

def Command.isQuery : Command → Bool
  | .findByCanonical _ | .findById _ | .entries | .size => true
  | _ => false

/-- No answer to a query depends on the next id. -/
theorem perform_query_withNextId {query : Command} (hquery : query.isQuery) (archive : Archive)
    (nextId : Nat) : (perform query { archive with nextId }).1 = (perform query archive).1 := by
  cases query with
  | findById id =>
      cases id with
      | none => rfl
      | some id => cases id <;> rfl
  | findByCanonical canonical =>
      have hsame : search canonical { archive with nextId } = archive.search canonical := by
        cases canonical <;> rfl
      simp only [perform, hsame]
      cases archive.search canonical <;> rfl
  | insert | insertIfAbsent | clear | revise => cases hquery
  | entries | size => rfl

theorem perform_of_rejected {command : Command} {issues : List Issue}
    (hattempts : attempts command (.rejected issues))
    (hreply : (perform command archive).1 = .rejected issues) :
    (perform command archive).2 = { archive with nextId := archive.nextId + 1 } := by
  have heffect := effect_perform command archive
  rw [hreply] at heffect
  generalize (perform command archive).2 = later at heffect
  cases heffect with
  | answered hanswered => rw [hanswered] at hattempts; cases hattempts
  | created _ _ hnew => cases hnew
  | rejected => rfl

/-- In every state of a run the records are filed under their own ids, the index leads to the first
entry of each canonical text that is on record, the listing is ascending and complete, and no query
can tell that a draft was rejected. -/
theorem stateAt_searches {commands : List Command} {position : Nat} {archive : Archive}
    (hreached : stateAt commands position = archive) :
    ((archive.records.map Prod.fst).Nodup ∧ ∀ id entry, (id, entry) ∈ archive.records →
        entry.id = id ∧ 0 < id ∧ id < archive.nextId) ∧
      ((∀ canonical, (archive.index.lookup canonical).isSome ↔
          ∃ entry ∈ archive.entries, entry.canonical = canonical) ∧
        ∀ canonical id, archive.index.lookup canonical = some id →
          ∃ entry, archive.IsFirst canonical entry ∧ entry.id = id ∧
            archive.findById id = some entry ∧
            archive.findByCanonical canonical = .ok (some entry) ∧
            ∀ draft, draft.canonical = some canonical →
              perform (.insertIfAbsent draft) archive = (.created entry false, archive)) ∧
      (archive.entries.Pairwise (fun left right => left.id < right.id) ∧ archive.entries.Nodup ∧
        (∀ entry, entry ∈ archive.entries ↔ archive.findById entry.id = some entry) ∧
        archive.entries.length = archive.size) ∧
      ∀ command draft issues, command = .insert draft ∨ command = .insertIfAbsent draft →
        (perform command archive).1 = .rejected issues →
        ∀ query : Command, query.isQuery →
          (perform query (perform command archive).2).1 = (perform query archive).1 := by
  have hcoherent : archive.Coherent := by
    rw [← hreached]
    exact coherent_stateAt commands position
  refine ⟨⟨hcoherent.nodup_keys, ?_⟩, ⟨hcoherent.isSome_lookup_index, ?_⟩,
    ⟨hcoherent.ascending, hcoherent.nodup_entries, ?_, ?_⟩, ?_⟩
  · intro id entry hrecord
    obtain rfl : entry.id = id := hcoherent.labelled (id, entry) hrecord
    exact ⟨rfl, hcoherent.issued entry (List.mem_map_of_mem hrecord)⟩
  · intro canonical id hindexed
    obtain ⟨entry, hfirst, rfl⟩ := hcoherent.lookup_index_eq_some_iff.mp hindexed
    have hfound := hcoherent.findByCanonical_eq_some_iff.mpr hfirst
    refine ⟨entry, hfirst, rfl, ?_, hfound, ?_⟩
    · exact hcoherent.findById_eq_some_iff.mpr ⟨hfirst.recorded, rfl⟩
    · intro draft hdraft
      apply perform_insertIfAbsent_of_found
      rw [hdraft]
      exact hfound
  · intro entry
    rw [hcoherent.findById_eq_some_iff]
    simp
  · exact List.length_map _
  · intro command draft issues hcommand hreply query hquery
    have hattempts : attempts command (.rejected issues) := by
      rcases hcommand with rfl | rfl <;> rfl
    rw [perform_of_rejected hattempts hreply]
    exact perform_query_withNextId hquery archive _

/-- Two entries with one canonical text, a rejected draft, and one entry after everything was
removed. -/
def rewritten : List Command :=
  [.insert (.ofParts "a".toList [.identifier] "a".toList),
    .insert (.ofParts " a".toList [.identifier] "a".toList),
    .insertIfAbsent ⟨none, [], some "b".toList⟩, .clear,
    .insert (.ofParts "b".toList [.identifier] "b".toList)]

theorem stateAt_searches_rewritten :
    (stateAt rewritten 3).findByCanonical "a".toList =
        .ok (some ⟨1, "a".toList, [.identifier], "a".toList⟩) ∧
      (stateAt rewritten 3).entries.Nodup ∧
      (perform .size (perform (.insert ⟨none, [], none⟩) (stateAt rewritten 5)).2).1 =
        (perform .size (stateAt rewritten 5)).1 := by
  obtain ⟨-, ⟨-, hindexed⟩, ⟨-, hnodup, -⟩, -⟩ :=
    stateAt_searches (rfl : stateAt rewritten 3 = stateAt rewritten 3)
  obtain ⟨entry, hfirst, hid, hfound, hsearch, -⟩ := hindexed "a".toList 1 (by decide)
  have hentry : (stateAt rewritten 3).findById 1 =
      some ⟨1, "a".toList, [.identifier], "a".toList⟩ := by decide
  obtain rfl : entry = _ := Option.some.inj (hfound.symm.trans hentry)
  refine ⟨hsearch, hnodup, ?_⟩
  exact (stateAt_searches (rfl : stateAt rewritten 5 = stateAt rewritten 5)).2.2.2 _ _ _ (.inl rfl)
    rfl .size rfl

end Formulary.Archive
