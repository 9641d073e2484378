import Formulary.Proofs.Archive.Run

/-!
# Ids are given once

Each attempt to create an entry uses up an id, whether the entry is accepted or rejected, and the
next id counts these attempts over the whole run.  Since a later archive knows no entry with an
older id that the earlier archive did not know, an id always stands for the same entry, and for none
any more once its entry is removed or its draft was rejected.
-/

namespace Formulary.Archive

variable {archive later : Archive} {commands : List Command} {command : Command} {reply : Reply}
variable {entry : Entry} {position id : Nat}

/-- The ids that a reply mentions, alone or with an entry. -/
def Reply.ids (reply : Reply) : List Nat :=
  reply.newId?.toList ++ reply.shown.map Entry.id

/-! ## One command -/

theorem Effect.nextId_eq (heffect : Effect archive command reply later) :
    later.nextId = archive.nextId + if attempts command reply then 1 else 0 := by
  cases heffect with
  | answered hattempts => simp [hattempts]
  | cleared => rfl
  | created _ hattempts => rw [nextId_insert, if_pos hattempts]
  | rejected hattempts => rw [if_pos hattempts]

theorem Effect.follows (heffect : Effect archive command reply later) : archive.Follows later := by
  cases heffect with
  | answered => exact .refl archive
  | cleared => exact follows_clear archive
  | created => exact follows_insert _ archive
  | rejected => exact ⟨Nat.le_succ _, fun _ hentry _ => hentry⟩

theorem Effect.shown_subset (heffect : Effect archive command reply later) :
    ∀ entry ∈ reply.shown, entry ∈ later.entries := by
  cases heffect with
  | answered _ _ hshown => exact hshown
  | cleared => simp [Reply.shown]
  | created hentry _ _ hshown =>
      intro entry hmem
      rw [hshown entry hmem]
      exact mem_entries_insert hentry
  | rejected => simp [Reply.shown]

/-- A new entry gets the next id, and getting it is an attempt. -/
theorem Effect.of_newId (heffect : Effect archive command reply later)
    (hnew : reply.newId? = some id) :
    id = archive.nextId ∧ attempts command reply ∧ ∃ entry ∈ later.entries, entry.id = id := by
  cases heffect with
  | answered _ hnone => rw [hnone] at hnew; cases hnew
  | cleared => cases hnew
  | created hentry hattempts hsome =>
      obtain rfl := Option.some.inj (hnew.symm.trans hsome)
      exact ⟨toEntry_id hentry, hattempts, _, mem_entries_insert hentry, rfl⟩
  | rejected => cases hnew

/-- Whatever id a reply mentions is on record behind the command. -/
theorem Effect.exists_entry_of_mem_ids (heffect : Effect archive command reply later)
    (hid : id ∈ reply.ids) : ∃ entry ∈ later.entries, entry.id = id := by
  rcases List.mem_append.mp hid with hnew | hshown
  · exact (heffect.of_newId (by simpa using hnew)).2.2
  · obtain ⟨entry, hentry, rfl⟩ := List.mem_map.mp hshown
    exact ⟨entry, heffect.shown_subset entry hentry, rfl⟩

/-! ## Runs -/

theorem follows_stateAt {first last : Nat} (hle : first ≤ last) :
    (stateAt commands first).Follows (stateAt commands last) := by
  apply Run.stateAt_induction hle (.refl _)
  intro _ command archive _ _ _ hfollows
  exact hfollows.trans (effect_perform command archive).follows

def attemptedAt (commands : List Command) (position : Nat) : Bool :=
  match commands[position]?, (replies commands)[position]? with
  | some command, some reply => attempts command reply
  | _, _ => false

/-- The id that was used up at a position. -/
def consumed? (commands : List Command) (position : Nat) : Option Nat :=
  if attemptedAt commands position then some (stateAt commands position).nextId else none

def attemptsBefore (commands : List Command) (position : Nat) : Nat :=
  (List.range position).countP (attemptedAt commands)

theorem attemptedAt_eq (hcommand : commands[position]? = some command)
    (hreply : (replies commands)[position]? = some reply) :
    attemptedAt commands position = attempts command reply := by
  simp only [attemptedAt, hcommand, hreply]

theorem nextId_stateAt_succ (commands : List Command) (position : Nat) :
    (stateAt commands (position + 1)).nextId =
      (stateAt commands position).nextId + if attemptedAt commands position then 1 else 0 := by
  cases hcommand : commands[position]? with
  | none =>
      have hsame : stateAt commands (position + 1) = stateAt commands position :=
        Run.stateAt_succ_of_none hcommand
      rw [hsame]
      simp [attemptedAt, hcommand]
  | some command =>
      have hreply : (replies commands)[position]? = _ := Run.getElem?_replies hcommand
      rw [attemptedAt_eq hcommand hreply, stateAt, Run.stateAt_succ hcommand]
      exact (effect_perform command _).nextId_eq

/-- The next id is one more than the number of attempts so far. -/
theorem nextId_stateAt (commands : List Command) (position : Nat) :
    (stateAt commands position).nextId = attemptsBefore commands position + 1 := by
  induction position with
  | zero => rfl
  | succ position ih =>
      rw [nextId_stateAt_succ, ih, attemptsBefore, attemptsBefore, List.range_succ,
        List.countP_append, List.countP_singleton]
      omega

theorem consumed?_lt_nextId {earlier used : Nat}
    (hconsumed : consumed? commands earlier = some used)
    (hlt : earlier < position) : used < (stateAt commands position).nextId := by
  unfold consumed? at hconsumed
  split at hconsumed
  next hattempted =>
      cases hconsumed
      have hsucc := nextId_stateAt_succ commands earlier
      rw [if_pos hattempted] at hsucc
      have hcounted :
          (stateAt commands (earlier + 1)).nextId ≤ (stateAt commands position).nextId :=
        (follows_stateAt hlt).counted
      omega
  next => cases hconsumed

/-- An id that is retired before a position is in no reply from there on. -/
theorem Retired.not_mem_ids {first last : Nat} (hretired : (stateAt commands first).Retired id)
    (hle : first ≤ last) (hreply : (replies commands)[last]? = some reply) : id ∉ reply.ids := by
  intro hid
  obtain ⟨command, -, heffect⟩ := effect_of_reply hreply
  obtain ⟨entry, hentry, hsame⟩ := heffect.exists_entry_of_mem_ids hid
  have hlater := (follows_stateAt (Nat.le_succ_of_le hle)).retired hretired
  exact hlater.gone entry hentry hsame

/-- Entries that are on record at different times under one id are the same. -/
theorem eq_of_id_eq_stateAt {first last : Nat} (hle : first ≤ last) {other : Entry}
    (hentry : entry ∈ (stateAt commands first).entries)
    (hother : other ∈ (stateAt commands last).entries) (hid : entry.id = other.id) :
    entry = other := by
  have hcoherent := coherent_stateAt commands first
  apply hcoherent.eq_of_id_eq hentry _ hid
  apply (follows_stateAt hle).known other hother
  rw [← hid]
  exact (hcoherent.issued entry hentry).2

theorem eq_of_shown {first last : Nat} {firstReply lastReply : Reply}
    (hfirst : (replies commands)[first]? = some firstReply)
    (hlast : (replies commands)[last]? = some lastReply) {other : Entry}
    (hentry : entry ∈ firstReply.shown) (hother : other ∈ lastReply.shown)
    (hid : entry.id = other.id) : entry = other := by
  obtain ⟨_, -, hfirstEffect⟩ := effect_of_reply hfirst
  obtain ⟨_, -, hlastEffect⟩ := effect_of_reply hlast
  have hentryRecorded := hfirstEffect.shown_subset entry hentry
  have hotherRecorded := hlastEffect.shown_subset other hother
  rcases Nat.le_total first last with hle | hle
  · exact eq_of_id_eq_stateAt (Nat.succ_le_succ hle) hentryRecorded hotherRecorded hid
  · exact (eq_of_id_eq_stateAt (Nat.succ_le_succ hle) hotherRecorded hentryRecorded hid.symm).symm

theorem retired_of_cleared (hcommand : commands[position]? = some .clear)
    (hentry : entry ∈ (stateAt commands position).entries) :
    (stateAt commands (position + 1)).Retired entry.id := by
  rw [stateAt, Run.stateAt_succ hcommand]
  exact retired_clear ((coherent_stateAt commands position).issued entry hentry).2

theorem retired_of_rejected {issues : List Issue}
    (hreply : (replies commands)[position]? = some (.rejected issues))
    (hconsumed : consumed? commands position = some id) :
    (stateAt commands (position + 1)).Retired id := by
  obtain ⟨command, hcommand, heffect⟩ := effect_of_reply hreply
  unfold consumed? at hconsumed
  rw [attemptedAt_eq hcommand hreply] at hconsumed
  split at hconsumed
  next hattempts =>
      cases hconsumed
      generalize stateAt commands (position + 1) = later at heffect
      cases heffect with
      | answered hanswered => rw [hanswered] at hattempts; cases hattempts
      | created _ _ hnew => cases hnew
      | rejected =>
          refine ⟨Nat.lt_succ_self _, ?_⟩
          intro entry hentry
          exact Nat.ne_of_lt ((coherent_stateAt commands position).issued entry hentry).2
  next => cases hconsumed

/-- The id of a new entry is one more than the number of attempts before it, and so greater than
every id that was used up before.  Entries that are ever shown under one id are the same.  An id
whose entry was cleared away, or whose draft was rejected, is in no later reply. -/
theorem ids_given_once (commands : List Command) :
    (∀ (position : Nat) (reply : Reply) (id : Nat), (replies commands)[position]? = some reply →
        reply.newId? = some id →
          consumed? commands position = some id ∧ id = attemptsBefore commands position + 1 ∧
            ∀ earlier < position, ∀ used, consumed? commands earlier = some used → used < id) ∧
      (∀ (first last : Nat) (firstReply lastReply : Reply) (entry other : Entry),
        (replies commands)[first]? = some firstReply →
        (replies commands)[last]? = some lastReply →
        entry ∈ firstReply.shown → other ∈ lastReply.shown → entry.id = other.id →
          entry = other) ∧
      (∀ (first last : Nat) (reply : Reply) (entry : Entry), first < last →
        commands[first]? = some .clear → entry ∈ (stateAt commands first).entries →
        (replies commands)[last]? = some reply → entry.id ∉ reply.ids) ∧
      ∀ (first last : Nat) (reply : Reply) (issues : List Issue) (id : Nat), first < last →
        (replies commands)[first]? = some (.rejected issues) →
        consumed? commands first = some id → (replies commands)[last]? = some reply →
          id ∉ reply.ids := by
  refine ⟨?_, ?_, ?_, ?_⟩
  · intro position reply id hreply hnew
    obtain ⟨command, hcommand, heffect⟩ := effect_of_reply hreply
    obtain ⟨rfl, hattempts, -⟩ := heffect.of_newId hnew
    refine ⟨?_, nextId_stateAt commands position, ?_⟩
    · rw [consumed?, attemptedAt_eq hcommand hreply, if_pos hattempts]
    · intro earlier hlt used hconsumed
      exact consumed?_lt_nextId hconsumed hlt
  · intro first last firstReply lastReply entry other hfirst hlast hentry hother hid
    exact eq_of_shown hfirst hlast hentry hother hid
  · intro first last reply entry hlt hcommand hentry hreply
    exact (retired_of_cleared hcommand hentry).not_mem_ids hlt hreply
  · intro first last reply issues id hlt hrejected hconsumed hreply
    exact (retired_of_rejected hrejected hconsumed).not_mem_ids hlt hreply

/-- An entry that is cleared away, a rejected draft before that, and an entry behind it. -/
def reissued : List Command :=
  [.insert (.ofParts "a".toList [.identifier] "a".toList), .insertIfAbsent ⟨none, [], none⟩, .clear,
    .insertIfAbsent (.ofParts "a".toList [.identifier] "a".toList), .entries]

theorem ids_given_once_reissued :
    (replies reissued)[3]? = some (.created ⟨3, "a".toList, [.identifier], "a".toList⟩ true) ∧
      3 = attemptsBefore reissued 3 + 1 ∧
      ∀ reply, (replies reissued)[4]? = some reply → 1 ∉ reply.ids ∧ 2 ∉ reply.ids := by
  obtain ⟨hnew, -, hcleared, hrejected⟩ := ids_given_once reissued
  refine ⟨rfl, (hnew 3 _ 3 rfl rfl).2.1, ?_⟩
  intro reply hreply
  constructor
  · exact hcleared 2 4 reply ⟨1, "a".toList, [.identifier], "a".toList⟩ (by decide) rfl (by decide)
      hreply
  · exact hrejected 1 4 reply _ 2 (by decide) rfl rfl hreply

end Formulary.Archive
