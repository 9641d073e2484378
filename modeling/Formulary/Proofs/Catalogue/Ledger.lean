import Formulary.Proofs.Catalogue

/-!
# The ledger of a catalogue

Whoever watches the commands and the replies of a catalogue can keep a ledger: the texts that were
stored since the last clear, and the ids of the entries ever created.  A text opens an entry exactly
if no text on the ledger stands for its tree.  What the catalogue has on record is always what the
ledger says.
-/

namespace Formulary.Catalogue

variable {archive : Archive} {commands : List Command} {command : Command} {position : Nat}

/-! ## The ledger -/

/-- A text that was stored, and the id that was answered. -/
structure Stored where
  id : Nat
  text : Text

/-- No earlier text stands for the tree of a text. -/
def IsNew (earlier : List Stored) (text : Text) : Prop :=
  ∀ other ∈ earlier, Expr.parse other.text ≠ Expr.parse text

instance (earlier : List Stored) (text : Text) : Decidable (IsNew earlier text) :=
  inferInstanceAs (Decidable (∀ other ∈ earlier, Expr.parse other.text ≠ Expr.parse text))

/-- Of the stored texts, given from the latest one back, the first one of each tree, in the order in
which they were stored. -/
def firsts : List Stored → List Stored
  | [] => []
  | latest :: earlier =>
    if IsNew earlier latest.text then firsts earlier ++ [latest] else firsts earlier

/-- The texts stored since the last clear, from the latest one back, and the ids of the entries ever
created, in order. -/
structure Ledger where
  stored : List Stored
  created : List Nat

namespace Ledger

def add (latest : Stored) (ledger : Ledger) : Ledger where
  stored := latest :: ledger.stored
  created :=
    if IsNew ledger.stored latest.text then ledger.created ++ [latest.id] else ledger.created

def note (ledger : Ledger) : Command → Reply → Ledger
  | .store text, .id id => ledger.add ⟨id, Text.ofOption text⟩
  | .clear, _ => { ledger with stored := [] }
  | _, _ => ledger

def listing (ledger : Ledger) : List (Nat × Text) :=
  (firsts ledger.stored).map fun stored => (stored.id, stored.text.trim)

end Ledger

def ledgerAt (commands : List Command) : Nat → Ledger
  | 0 => ⟨[], []⟩
  | position + 1 =>
    match commands[position]?, (replies commands)[position]? with
    | some command, some reply => (ledgerAt commands position).note command reply
    | _, _ => ledgerAt commands position

/-! ## The first text of each tree -/

theorem firsts_subset (stored : List Stored) : firsts stored ⊆ stored := by
  induction stored with
  | nil => exact List.Subset.refl []
  | cons latest earlier ih =>
      intro first hfirst
      rw [firsts] at hfirst
      split at hfirst
      · rcases List.mem_append.mp hfirst with hfirst | hfirst
        · exact List.mem_cons_of_mem latest (ih hfirst)
        · rw [List.mem_singleton.mp hfirst]
          exact List.mem_cons_self
      · exact List.mem_cons_of_mem latest (ih hfirst)

/-- No two of the first texts stand for the same tree. -/
theorem pairwise_firsts (stored : List Stored) :
    (firsts stored).Pairwise fun left right => Expr.parse left.text ≠ Expr.parse right.text := by
  induction stored with
  | nil => exact .nil
  | cons latest earlier ih =>
      rw [firsts]
      split
      next hnew =>
          rw [List.pairwise_append]
          refine ⟨ih, List.pairwise_singleton _ _, ?_⟩
          intro first hfirst last hlast
          rw [List.mem_singleton.mp hlast]
          exact hnew first (firsts_subset earlier hfirst)
      next => exact ih

theorem Ledger.pairwise_listing (ledger : Ledger) :
    ledger.listing.Pairwise fun left right => Expr.parse left.2 ≠ Expr.parse right.2 := by
  rw [Ledger.listing, List.pairwise_map]
  simpa only [Expr.parse_trim] using pairwise_firsts ledger.stored

theorem Ledger.eq_of_mem_listing (ledger : Ledger) {left right : Nat × Text}
    (hleft : left ∈ ledger.listing) (hright : right ∈ ledger.listing)
    (hsame : Expr.parse left.2 = Expr.parse right.2) : left = right := by
  by_contra hne
  have : Std.Symm fun left right : Nat × Text => Expr.parse left.2 ≠ Expr.parse right.2 :=
    ⟨fun _ _ hdiffer => hdiffer.symm⟩
  exact ledger.pairwise_listing.forall hleft hright hne hsame

theorem Ledger.listing_add (latest : Stored) (ledger : Ledger) :
    (ledger.add latest).listing =
      if IsNew ledger.stored latest.text then ledger.listing ++ [(latest.id, latest.text.trim)]
      else ledger.listing := by
  simp only [listing, add, firsts]
  split <;> simp

/-! ## One command -/

/-- The catalogue has on record what the ledger says. -/
structure Records (ledger : Ledger) (archive : Archive) : Prop where
  sound : Sound archive
  listed : summaries archive = ledger.listing
  answered : ∀ stored ∈ ledger.stored, ∃ entry ∈ archive.entries,
    entry.id = stored.id ∧ Expr.parse entry.source = Expr.parse stored.text
  numbered : ledger.created = List.range' 1 (archive.nextId - 1)

theorem records_empty : Records ⟨[], []⟩ .empty where
  sound := sound_empty
  listed := rfl
  answered := by simp
  numbered := rfl

/-- A text is new to the ledger exactly if its tree is not on record. -/
theorem Records.isNew_iff {ledger : Ledger} (hrecords : Records ledger archive) (text : Text) :
    IsNew ledger.stored text ↔
      ∀ entry ∈ archive.entries, Expr.parse entry.source ≠ Expr.parse text := by
  constructor
  · intro hnew entry hentry
    have hlisted : (entry.id, entry.source) ∈ ledger.listing := by
      rw [← hrecords.listed]
      exact List.mem_map_of_mem hentry
    obtain ⟨first, hfirst, hsame⟩ := List.mem_map.mp hlisted
    obtain ⟨-, htrim⟩ := Prod.mk.inj hsame
    rw [← htrim, Expr.parse_trim]
    exact hnew first (firsts_subset _ hfirst)
  · intro habsent other hother
    obtain ⟨entry, hentry, -, hsame⟩ := hrecords.answered other hother
    rw [← hsame]
    exact habsent entry hentry

theorem summaries_insert (submission : Submission) (archive : Archive) :
    summaries (archive.insert submission.draft).2 =
      summaries archive ++ [(archive.nextId, submission.source)] := by
  rw [summaries, Archive.entries_insert, submission.toEntry_draft, List.map_append]
  rfl

section Added

variable {ledger : Ledger} {text : Text} (hrecords : Records ledger archive)

include hrecords

theorem Records.add_known {entry : Entry} (hentry : entry ∈ archive.entries)
    (hsame : Expr.parse entry.source = Expr.parse text) :
    Records (ledger.add ⟨entry.id, text⟩) archive := by
  have hold : ¬IsNew ledger.stored text := by
    rw [hrecords.isNew_iff]
    intro habsent
    exact habsent entry hentry hsame
  refine ⟨hrecords.sound, ?_, ?_, ?_⟩
  · rw [Ledger.listing_add, if_neg hold, hrecords.listed]
  · rintro stored (_ | ⟨_, hstored⟩)
    · exact ⟨entry, hentry, rfl, hsame⟩
    · exact hrecords.answered stored hstored
  · rw [Ledger.add, if_neg hold, hrecords.numbered]

theorem Records.add_new {submission : Submission}
    (hsubmission : Submission.ofText text = .ok submission)
    (hnew : ∀ entry ∈ archive.entries, Expr.parse entry.source ≠ Expr.parse text) :
    Records (ledger.add ⟨archive.nextId, text⟩) (archive.insert submission.draft).2 := by
  have hadded : IsNew ledger.stored text := hrecords.isNew_iff text |>.mpr hnew
  have hentry := submission.toEntry_draft archive.nextId
  obtain ⟨htrim, -⟩ := Submission.exists_tree_of_ofText hsubmission
  refine ⟨hrecords.sound.insert hsubmission, ?_, ?_, ?_⟩
  · rw [Ledger.listing_add, if_pos hadded, summaries_insert, hrecords.listed, htrim]
  · rintro stored (_ | ⟨_, hstored⟩)
    · refine ⟨_, Archive.mem_entries_insert hentry, rfl, ?_⟩
      rw [Submission.entry, htrim, Expr.parse_trim]
    · obtain ⟨entry, hmem, hanswered⟩ := hrecords.answered stored hstored
      exact ⟨entry, (Archive.grows_insert _ archive).kept.subset hmem, hanswered⟩
  · have hcounting := hrecords.sound.coherent.counting
    have hnext : 1 + (archive.nextId - 1) = archive.nextId := by omega
    have hlast : List.range' 1 (archive.nextId - 1 + 1) = _ := List.range'_1_concat
    rw [hnext, Nat.add_comm, hnext] at hlast
    rw [Ledger.add, if_pos hadded, hrecords.numbered, Archive.nextId_insert, Nat.add_sub_cancel,
      hlast]

theorem Records.note_store (text : Option Text) :
    Records (ledger.note (.store text) (perform (.store text) archive).1)
      (perform (.store text) archive).2 := by
  rw [perform_store, perform_store_reply]
  have hend := storeEnd hrecords.sound (Text.ofOption text)
  generalize (store (Text.ofOption text) archive).1 = result at hend ⊢
  generalize (store (Text.ofOption text) archive).2 = later at hend ⊢
  cases hend with
  | refused => exact hrecords
  | known hparse hentry hsource => exact hrecords.add_known hentry (hsource.trans hparse.symm)
  | added hparse hsubmission hnew =>
      apply hrecords.add_new hsubmission
      rwa [hparse]

end Added

theorem Records.note_perform {ledger : Ledger} (hrecords : Records ledger archive)
    (command : Command) :
    Records (ledger.note command (perform command archive).1) (perform command archive).2 := by
  cases command with
  | store text => exact hrecords.note_store text
  | evaluate id environment =>
      rw [perform_evaluate_archive]
      exact hrecords
  | all => exact hrecords
  | summaries => exact hrecords
  | entry id => exact hrecords
  | clear =>
      refine ⟨hrecords.sound.clear, rfl, ?_, hrecords.numbered⟩
      simp [Ledger.note]

/-! ## Runs -/

theorem records_stateAt (commands : List Command) (position : Nat) :
    Records (ledgerAt commands position) (stateAt commands position) := by
  induction position with
  | zero => exact records_empty
  | succ position ih =>
      cases hcommand : commands[position]? with
      | none =>
          have hsame : stateAt commands (position + 1) = stateAt commands position :=
            Run.stateAt_succ_of_none hcommand
          rw [hsame]
          simpa [ledgerAt, hcommand] using ih
      | some command =>
          rw [stateAt, Run.stateAt_succ hcommand]
          simpa only [ledgerAt, hcommand, Run.getElem?_replies hcommand]
            using ih.note_perform command

/-- Two entries on record for the same tree are listed in the same place. -/
theorem eq_of_parse_eq {entry other : Entry}
    (hentry : entry ∈ (stateAt commands position).entries)
    (hother : other ∈ (stateAt commands position).entries)
    (hsame : Expr.parse entry.source = Expr.parse other.source) :
    (entry.id, entry.source) = (other.id, other.source) := by
  have hlisted := (records_stateAt commands position).listed
  apply (ledgerAt commands position).eq_of_mem_listing _ _ hsame
  · rw [← hlisted]
    exact List.mem_map_of_mem hentry
  · rw [← hlisted]
    exact List.mem_map_of_mem hother

/-- As long as nothing is cleared, equal ids are answered exactly for texts with equal trees. -/
theorem id_eq_iff {first last : Nat} {id otherId : Nat} {text other : Option Text}
    (horder : first ≤ last) (hfirst : commands[first]? = some (.store text))
    (hfirstReply : (replies commands)[first]? = some (.id id))
    (hlast : commands[last]? = some (.store other))
    (hlastReply : (replies commands)[last]? = some (.id otherId))
    (hclear : ∀ between, first < between → between < last → commands[between]? ≠ some .clear) :
    id = otherId ↔ Expr.parse (Text.ofOption text) = Expr.parse (Text.ofOption other) := by
  obtain ⟨entry, hentry, rfl, tree, hsource, htext⟩ := exists_entry_of_reply hfirst hfirstReply
  obtain ⟨otherEntry, hother, rfl, otherTree, hotherSource, hotherText⟩ :=
    exists_entry_of_reply hlast hlastReply
  have hgrows : (stateAt commands (first + 1)).Grows (stateAt commands (last + 1)) := by
    apply grows_stateAt (Nat.succ_le_succ horder)
    intro between hafter hbefore
    rcases Nat.lt_succ_iff_lt_or_eq.mp hbefore with hbefore | rfl
    · exact hclear between hafter hbefore
    · simp [hlast]
  have hkept := hgrows.kept.subset hentry
  rw [htext, ← hsource, hotherText, ← hotherSource]
  constructor
  · intro hid
    have hcoherent := (sound_stateAt commands (last + 1)).coherent
    rw [hcoherent.eq_of_id_eq hkept hother hid]
  · intro hsame
    exact congrArg Prod.fst (eq_of_parse_eq hkept hother hsame)

/-- How a store in a run ends, as the reply tells it. -/
theorem storeEnd_stateAt {text : Option Text} (hstored : commands[position]? = some (.store text)) :
    ∃ result, (replies commands)[position]? = some (.ofStore result) ∧
      StoreEnd (stateAt commands position) (Text.ofOption text) result
        (stateAt commands (position + 1)) := by
  refine ⟨(store (Text.ofOption text) (stateAt commands position)).1, ?_, ?_⟩
  · rw [Run.getElem?_replies hstored, perform_store_reply]
  · rw [stateAt, Run.stateAt_succ hstored, perform_store]
    exact storeEnd (sound_stateAt commands position) (Text.ofOption text)

theorem exists_id_of_parse {text : Option Text} {tree : Expr}
    (hstored : commands[position]? = some (.store text))
    (hparse : Expr.parse (Text.ofOption text) = .ok tree) :
    ∃ id, (replies commands)[position]? = some (.id id) := by
  obtain ⟨id, hid⟩ := exists_id_of_store (sound_stateAt commands position) hparse
  refine ⟨id, ?_⟩
  rw [Run.getElem?_replies hstored, perform_store_eq_id_iff.mpr hid]

/-- A text that is not read is refused, and nothing changes. -/
theorem exists_fault_of_parse {text : Option Text} {cause : Fault}
    (hstored : commands[position]? = some (.store text))
    (hparse : Expr.parse (Text.ofOption text) = .error cause) :
    ∃ fault, (replies commands)[position]? = some (.failed fault) ∧
      stateAt commands (position + 1) = stateAt commands position := by
  obtain ⟨result, hreply, hend⟩ := storeEnd_stateAt hstored
  rw [hreply]
  generalize stateAt commands (position + 1) = later at hend
  cases hend with
  | refused => exact ⟨_, rfl, rfl⟩
  | known htree => rw [hparse] at htree; cases htree
  | added htree => rw [hparse] at htree; cases htree

/-- A text that is read is stored under the id of the one listed text with its tree. -/
theorem exists_listed_of_parse {text : Option Text} {tree : Expr}
    (hstored : commands[position]? = some (.store text))
    (hparse : Expr.parse (Text.ofOption text) = .ok tree) :
    ∃ id source, (replies commands)[position]? = some (.id id) ∧
      (id, source) ∈ (ledgerAt commands (position + 1)).listing ∧
        Expr.parse source = .ok tree ∧
          ∀ other ∈ (ledgerAt commands (position + 1)).listing,
            Expr.parse other.2 = .ok tree → other = (id, source) := by
  obtain ⟨id, hreply⟩ := exists_id_of_parse hstored hparse
  obtain ⟨entry, hentry, rfl, entryTree, hsource, htext⟩ := exists_entry_of_reply hstored hreply
  obtain rfl : tree = entryTree := Except.ok.inj (hparse.symm.trans htext)
  have hlisted : (entry.id, entry.source) ∈ (ledgerAt commands (position + 1)).listing := by
    rw [← (records_stateAt commands (position + 1)).listed]
    exact List.mem_map_of_mem hentry
  refine ⟨entry.id, entry.source, hreply, hlisted, hsource, ?_⟩
  intro other hother hsame
  exact Ledger.eq_of_mem_listing _ hother hlisted (hsame.trans hsource.symm)

/-- The catalogue keeps the ledger.  It lists, in order, the stored texts that opened an entry.  A
text that is read is stored under the id of the one listed text with its tree, and one that is not
read changes nothing.  Until the next clear, equal ids are answered exactly for equal trees.  The
entries of a run are numbered from one, over all clears. -/
theorem summaries_eq_ledger (commands : List Command) :
    (∀ position : Nat,
      summaries (stateAt commands position) = (ledgerAt commands position).listing ∧
        (commands[position]? = some .summaries →
          (replies commands)[position]? =
            some (.summaries (ledgerAt commands position).listing))) ∧
      (∀ (position : Nat) (text : Option Text), commands[position]? = some (.store text) →
        (∀ tree, Expr.parse (Text.ofOption text) = .ok tree →
            ∃ id source, (replies commands)[position]? = some (.id id) ∧
              (id, source) ∈ (ledgerAt commands (position + 1)).listing ∧
                Expr.parse source = .ok tree ∧
                  ∀ other ∈ (ledgerAt commands (position + 1)).listing,
                    Expr.parse other.2 = .ok tree → other = (id, source)) ∧
          (∀ cause, Expr.parse (Text.ofOption text) = .error cause →
            ∃ fault, (replies commands)[position]? = some (.failed fault) ∧
              stateAt commands (position + 1) = stateAt commands position)) ∧
      (∀ (first last id otherId : Nat) (text other : Option Text), first ≤ last →
        commands[first]? = some (.store text) → (replies commands)[first]? = some (.id id) →
        commands[last]? = some (.store other) → (replies commands)[last]? = some (.id otherId) →
        (∀ between, first < between → between < last → commands[between]? ≠ some .clear) →
          (id = otherId ↔ Expr.parse (Text.ofOption text) = Expr.parse (Text.ofOption other))) ∧
      ∀ position index id : Nat, (ledgerAt commands position).created[index]? = some id →
        id = index + 1 := by
  refine ⟨?_, ?_, ?_, ?_⟩
  · intro position
    have hlisted := (records_stateAt commands position).listed
    refine ⟨hlisted, ?_⟩
    intro hcommand
    rw [Run.getElem?_replies hcommand, ← hlisted]
    rfl
  · intro position text hstored
    exact ⟨fun _ => exists_listed_of_parse hstored, fun _ => exists_fault_of_parse hstored⟩
  · intro first last id otherId text other horder hfirst hfirstReply hlast hlastReply hclear
    exact id_eq_iff horder hfirst hfirstReply hlast hlastReply hclear
  · intro position index id hcreated
    rw [(records_stateAt commands position).numbered] at hcreated
    obtain ⟨hless, hid⟩ := List.getElem?_eq_some_iff.mp hcreated
    rw [← hid, List.getElem_range']
    omega

/-- Two spellings of a formula, a text that is no formula, and the second spelling again behind a
clear. -/
def restored : List Command :=
  [.store (some "a+b".toList), .store (some " (a + b)".toList), .store none, .clear,
    .store (some " (a + b)".toList), .summaries]

theorem summaries_eq_ledger_restored :
    (replies restored)[5]? = some (.summaries [(2, "(a + b)".toList)]) ∧
      (∃ fault, (replies restored)[2]? = some (.failed fault)) ∧
      (ledgerAt restored 6).created = [1, 2] := by
  obtain ⟨hlisted, hstored, -⟩ := summaries_eq_ledger restored
  have hsummaries : summaries (stateAt restored 5) = [(2, "(a + b)".toList)] := by decide +kernel
  have hblank : Expr.parse (Text.ofOption none) = .error (.malformed .blankText) := rfl
  refine ⟨?_, ?_, by decide +kernel⟩
  · rw [(hlisted 5).2 rfl, ← (hlisted 5).1, hsummaries]
  · obtain ⟨fault, hfailed, -⟩ := (hstored 2 none rfl).2 _ hblank
    exact ⟨fault, hfailed⟩

end Formulary.Catalogue
