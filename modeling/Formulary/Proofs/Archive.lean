import Formulary.Archive
import Mathlib.Data.List.Nodup

/-!
# Coherence of the archive

An archive keeps its entries, an index of their canonical texts and a counter, and an operation may
touch only some of the three.  They stay coherent: every entry is found under its own id, and the
index leads to the first entry of each canonical text.  Entries that are on record stay there as
long as nothing is removed, and an id that is given up is never given again.
-/

namespace Formulary.Archive

variable {archive later last : Archive} {draft : Draft} {entry : Entry}

/-! ## What the operations do -/

theorem toEntry_id {id : Nat} (hentry : draft.toEntry id = .ok entry) : entry.id = id := by
  unfold Draft.toEntry at hentry
  split at hentry
  · cases hentry
    rfl
  · cases hentry

/-- A complete draft makes an entry. -/
theorem toEntry_ofParts (source : Text) (kinds : List Token.Kind) (canonical : Text) (id : Nat) :
    (Draft.ofParts source kinds canonical).toEntry id = .ok ⟨id, source, kinds, canonical⟩ := by
  have hkinds : ((kinds.map some).mapM fun kind => kind) = some kinds := by
    induction kinds with
    | nil => rfl
    | cons kind rest ih => simp [List.mapM_cons, ih]
  simp only [Draft.toEntry, Draft.ofParts, hkinds]

theorem insert_of_entry (hentry : draft.toEntry archive.nextId = .ok entry) :
    archive.insert draft =
      (.ok entry,
        { records := archive.records ++ [(archive.nextId, entry)]
          index := indexFirst entry.canonical archive.nextId archive.index
          nextId := archive.nextId + 1 }) := by
  simp only [insert, hentry]

theorem insert_of_issues {issues : List Issue}
    (hissues : draft.toEntry archive.nextId = .error issues) :
    archive.insert draft = (.error issues, { archive with nextId := archive.nextId + 1 }) := by
  simp only [insert, hissues]

/-- An insertion uses up the next id, whether or not it is rejected. -/
theorem nextId_insert (draft : Draft) (archive : Archive) :
    (archive.insert draft).2.nextId = archive.nextId + 1 := by
  cases hentry : draft.toEntry archive.nextId with
  | ok entry => rw [insert_of_entry hentry]
  | error issues => rw [insert_of_issues hentry]

/-- An insertion puts at most one entry behind those on record. -/
theorem entries_insert (draft : Draft) (archive : Archive) :
    (archive.insert draft).2.entries =
      archive.entries ++ (draft.toEntry archive.nextId).toOption.toList := by
  cases hentry : draft.toEntry archive.nextId with
  | ok entry =>
      rw [insert_of_entry hentry]
      simp [entries, Except.toOption]
  | error issues =>
      rw [insert_of_issues hentry]
      simp [entries, Except.toOption]

theorem mem_entries_insert {draft : Draft} (hentry : draft.toEntry archive.nextId = .ok entry) :
    entry ∈ (archive.insert draft).2.entries := by
  rw [entries_insert, hentry]
  exact List.mem_append_right _ (List.mem_singleton_self entry)

theorem insertIfAbsent_of_found (hfound : archive.search draft.canonical = .ok (some entry)) :
    archive.insertIfAbsent draft = (.ok (entry, false), archive) := by
  simp only [insertIfAbsent, hfound]

theorem insertIfAbsent_of_fault {fault : Fault}
    (hfault : archive.search draft.canonical = .error fault) :
    archive.insertIfAbsent draft = (.error (.fault fault), archive) := by
  simp only [insertIfAbsent, hfault]

theorem insertIfAbsent_of_absent (habsent : archive.search draft.canonical = .ok none)
    (hentry : draft.toEntry archive.nextId = .ok entry) :
    archive.insertIfAbsent draft = (.ok (entry, true), (archive.insert draft).2) := by
  have hinsert := insert_of_entry hentry
  simp only [insertIfAbsent, habsent, hinsert]

theorem insertIfAbsent_of_issues {issues : List Issue}
    (habsent : archive.search draft.canonical = .ok none)
    (hissues : draft.toEntry archive.nextId = .error issues) :
    archive.insertIfAbsent draft =
      (.error (.issues issues), { archive with nextId := archive.nextId + 1 }) := by
  simp only [insertIfAbsent, habsent, insert_of_issues hissues]

/-! ## Coherence -/

/-- The records, the index and the next id of an archive agree. -/
structure Coherent (archive : Archive) : Prop where
  labelled : ∀ record ∈ archive.records, record.2.id = record.1
  ascending : archive.entries.Pairwise fun left right => left.id < right.id
  issued : ∀ entry ∈ archive.entries, 0 < entry.id ∧ entry.id < archive.nextId
  counting : 0 < archive.nextId
  indexed : ∀ canonical, archive.index.lookup canonical =
    (archive.entries.find? fun entry => entry.canonical == canonical).map Entry.id

theorem coherent_empty : Coherent empty where
  labelled := by simp [empty]
  ascending := .nil
  issued := by simp [empty, entries]
  counting := by simp [empty]
  indexed := fun canonical => rfl

theorem Coherent.clear (hcoherent : archive.Coherent) : archive.clear.Coherent where
  labelled := by simp [Archive.clear]
  ascending := .nil
  issued := by simp [Archive.clear, entries]
  counting := hcoherent.counting
  indexed := fun canonical => rfl

theorem Coherent.withNextId (hcoherent : archive.Coherent) :
    Coherent { archive with nextId := archive.nextId + 1 } where
  labelled := hcoherent.labelled
  ascending := hcoherent.ascending
  issued := by
    intro entry hentry
    obtain ⟨hpositive, hless⟩ := hcoherent.issued entry hentry
    exact ⟨hpositive, Nat.lt_succ_of_lt hless⟩
  counting := Nat.lt_succ_of_lt hcoherent.counting
  indexed := hcoherent.indexed

/-- Only the first entry of a canonical text gets into the index. -/
theorem lookup_indexFirst (canonical other : Text) (id : Nat) (index : List (Text × Nat)) :
    (indexFirst canonical id index).lookup other =
      (index.lookup other).or (if canonical == other then some id else none) := by
  unfold indexFirst
  split
  next found hfound =>
      by_cases hsame : canonical = other
      · subst hsame
        simp [hfound]
      · simp [hsame]
  next hfound =>
      by_cases hsame : canonical = other
      · subst hsame
        simp [hfound]
      · have hother : (other == canonical) = false := by simpa using Ne.symm hsame
        simp [List.lookup_cons, hother, hsame]

section Added

variable (hcoherent : archive.Coherent) (hid : entry.id = archive.nextId)

include hcoherent hid

theorem Coherent.ascending_added :
    (archive.entries ++ [entry]).Pairwise fun left right => left.id < right.id := by
  rw [List.pairwise_append]
  refine ⟨hcoherent.ascending, List.pairwise_singleton _ _, ?_⟩
  intro earlier hearlier added hadded
  rw [List.mem_singleton.mp hadded, hid]
  exact (hcoherent.issued earlier hearlier).2

theorem Coherent.issued_added :
    ∀ issued ∈ archive.entries ++ [entry], 0 < issued.id ∧ issued.id < archive.nextId + 1 := by
  intro issued hissued
  rcases List.mem_append.mp hissued with hissued | hissued
  · have hbounds := hcoherent.issued issued hissued
    omega
  · have hcounting := hcoherent.counting
    rw [List.mem_singleton.mp hissued]
    omega

/-- An index that has the first entry of each canonical text still has it with one entry more. -/
theorem Coherent.indexed_added (canonical : Text) :
    (indexFirst entry.canonical archive.nextId archive.index).lookup canonical =
      ((archive.entries ++ [entry]).find? fun entry => entry.canonical == canonical).map
        Entry.id := by
  rw [lookup_indexFirst, List.find?_append, Option.map_or, ← hcoherent.indexed canonical, ← hid]
  congr 1
  by_cases hsame : entry.canonical == canonical <;> simp [hsame]

end Added

theorem Coherent.insert (hcoherent : archive.Coherent) (draft : Draft) :
    (archive.insert draft).2.Coherent := by
  cases hentry : draft.toEntry archive.nextId with
  | ok entry =>
      have hid := toEntry_id hentry
      have hentries : (archive.insert draft).2.entries = archive.entries ++ [entry] := by
        rw [entries_insert, hentry]
        rfl
      constructor
      · rw [insert_of_entry hentry]
        intro record hrecord
        rcases List.mem_append.mp hrecord with hrecord | hrecord
        · exact hcoherent.labelled record hrecord
        · rw [List.mem_singleton.mp hrecord, hid]
      · rw [hentries]
        exact hcoherent.ascending_added hid
      · rw [hentries, nextId_insert]
        exact hcoherent.issued_added hid
      · rw [nextId_insert]
        omega
      · intro canonical
        rw [hentries, insert_of_entry hentry]
        exact hcoherent.indexed_added hid canonical
  | error issues =>
      rw [insert_of_issues hentry]
      exact hcoherent.withNextId

/-! ## Searches -/

/-- No two entries on record carry the same id. -/
theorem Coherent.eq_of_id_eq (hcoherent : archive.Coherent) {left right : Entry}
    (hleft : left ∈ archive.entries) (hright : right ∈ archive.entries)
    (hid : left.id = right.id) : left = right := by
  have hnodup : (archive.entries.map Entry.id).Nodup := by
    rw [List.Nodup, List.pairwise_map]
    exact hcoherent.ascending.imp fun hless => Nat.ne_of_lt hless
  exact List.inj_on_of_nodup_map hnodup hleft hright hid

theorem lookup_eq_find? {records : List (Nat × Entry)}
    (hlabelled : ∀ record ∈ records, record.2.id = record.1) (id : Nat) :
    records.lookup id = (records.map Prod.snd).find? fun entry => entry.id == id := by
  induction records with
  | nil => rfl
  | cons record rest ih =>
      obtain ⟨key, entry⟩ := record
      obtain rfl : entry.id = key := hlabelled (key, entry) (by simp)
      have hrest := ih fun other hother => hlabelled other (by simp [hother])
      rw [List.lookup_cons, List.map_cons, List.find?_cons, hrest, Bool.beq_comm]

/-- The search for an id finds the entry on record that carries it. -/
theorem Coherent.findById_eq_some_iff (hcoherent : archive.Coherent) {id : Int} :
    archive.findById id = some entry ↔ entry ∈ archive.entries ∧ entry.id = id := by
  cases id with
  | ofNat id =>
      have hlookup : archive.findById (.ofNat id) =
          archive.entries.find? fun entry => entry.id == id :=
        lookup_eq_find? hcoherent.labelled id
      rw [hlookup, Int.ofNat_eq_natCast, Int.ofNat_inj]
      constructor
      · intro hfound
        have hid := List.find?_some hfound
        exact ⟨List.mem_of_find?_eq_some hfound, by simpa using hid⟩
      · rintro ⟨hmem, hid⟩
        cases hfound : archive.entries.find? fun entry => entry.id == id with
        | none => exact absurd (by simpa using hid) (List.find?_eq_none.mp hfound entry hmem)
        | some found =>
            have hfoundId : found.id = id := by simpa using List.find?_some hfound
            have hfoundMem := List.mem_of_find?_eq_some hfound
            rw [hcoherent.eq_of_id_eq hfoundMem hmem (hfoundId.trans hid.symm)]
  | negSucc id =>
      simp only [findById, reduceCtorEq, false_iff]
      rintro ⟨-, hid⟩
      omega

theorem Coherent.recordOf_eq (hcoherent : archive.Coherent) (hentry : entry ∈ archive.entries) :
    archive.recordOf entry.id = .ok entry := by
  have hfound : archive.records.lookup entry.id = some entry :=
    hcoherent.findById_eq_some_iff.mpr ⟨hentry, rfl⟩
  rw [recordOf, hfound]

/-- The search for a canonical text finds the first entry on record that has it, and never fails. -/
theorem Coherent.findByCanonical_eq (hcoherent : archive.Coherent) (canonical : Text) :
    archive.findByCanonical canonical =
      .ok (archive.entries.find? fun entry => entry.canonical == canonical) := by
  rw [findByCanonical, hcoherent.indexed]
  cases hfound : archive.entries.find? fun entry => entry.canonical == canonical with
  | none => rfl
  | some entry =>
      have hrecord := hcoherent.recordOf_eq (List.mem_of_find?_eq_some hfound)
      simp only [Option.map_some, hrecord, Except.map]

/-! ## Growth -/

/-- The later archive has everything that is on record in the earlier one, in the same place, and
counts on. -/
structure Grows (archive later : Archive) : Prop where
  kept : archive.entries <+: later.entries
  counted : archive.nextId ≤ later.nextId

theorem Grows.refl (archive : Archive) : archive.Grows archive :=
  ⟨List.prefix_rfl, Nat.le_refl _⟩

theorem Grows.trans (hfirst : archive.Grows later) (hsecond : later.Grows last) :
    archive.Grows last :=
  ⟨hfirst.kept.trans hsecond.kept, Nat.le_trans hfirst.counted hsecond.counted⟩

theorem grows_insert (draft : Draft) (archive : Archive) :
    archive.Grows (archive.insert draft).2 where
  kept := by
    rw [entries_insert]
    exact List.prefix_append _ _
  counted := by
    rw [nextId_insert]
    exact Nat.le_succ _

/-! ## Ids that are given up -/

/-- The later archive counts on from the earlier one, and its entries with ids from before are
entries of the earlier one. -/
structure Follows (archive later : Archive) : Prop where
  counted : archive.nextId ≤ later.nextId
  known : ∀ entry ∈ later.entries, entry.id < archive.nextId → entry ∈ archive.entries

theorem Follows.refl (archive : Archive) : archive.Follows archive :=
  ⟨Nat.le_refl _, fun _ hentry _ => hentry⟩

theorem Follows.trans (hfirst : archive.Follows later) (hsecond : later.Follows last) :
    archive.Follows last where
  counted := Nat.le_trans hfirst.counted hsecond.counted
  known := by
    intro entry hentry hless
    apply hfirst.known entry _ hless
    exact hsecond.known entry hentry (Nat.lt_of_lt_of_le hless hfirst.counted)

theorem follows_insert (draft : Draft) (archive : Archive) :
    archive.Follows (archive.insert draft).2 where
  counted := (grows_insert draft archive).counted
  known := by
    rw [entries_insert]
    intro entry hentry hless
    cases hadded : draft.toEntry archive.nextId with
    | ok added =>
        have hid := toEntry_id hadded
        rw [hadded] at hentry
        rcases List.mem_append.mp hentry with hentry | hentry
        · exact hentry
        · rw [List.mem_singleton.mp hentry, hid] at hless
          exact absurd hless (Nat.lt_irrefl _)
    | error issues => simpa [hadded, Except.toOption] using hentry

theorem follows_clear (archive : Archive) : archive.Follows archive.clear where
  counted := Nat.le_refl _
  known := by simp [clear, entries]

/-- An id that was given, or used up, and under which nothing is on record any more. -/
structure Retired (archive : Archive) (id : Nat) : Prop where
  used : id < archive.nextId
  gone : ∀ entry ∈ archive.entries, entry.id ≠ id

theorem retired_clear {id : Nat} (hused : id < archive.nextId) : archive.clear.Retired id where
  used := hused
  gone := by simp [clear, entries]

/-- A retired id stays retired. -/
theorem Follows.retired {id : Nat} (hfollows : archive.Follows later)
    (hretired : archive.Retired id) : later.Retired id where
  used := Nat.lt_of_lt_of_le hretired.used hfollows.counted
  gone := by
    rintro entry hentry rfl
    exact hretired.gone entry (hfollows.known entry hentry hretired.used) rfl

/-- Nothing is found under a retired id. -/
theorem Retired.findById {id : Nat} (hretired : archive.Retired id)
    (hcoherent : archive.Coherent) : archive.findById id = none := by
  cases hfound : archive.findById id with
  | none => rfl
  | some entry =>
      obtain ⟨hmem, hid⟩ := hcoherent.findById_eq_some_iff.mp hfound
      exact absurd (by omega) (hretired.gone entry hmem)

end Formulary.Archive
