import Formulary.Proofs.Archive
import Formulary.Proofs.Run
import Mathlib.Data.List.Count

/-!
# Runs of an archive

A command that reaches an archive has one of four effects: it is answered from what is on record, it
clears the archive, it puts a new entry on record, or it uses up an id for a draft that is rejected.
Every effect keeps the archive coherent, so in each state of a run the searches and the listing
agree on what is on record.
-/

namespace Formulary.Archive

variable {archive : Archive} {commands : List Command} {command : Command} {reply : Reply}
variable {entry : Entry} {position : Nat}

/-! ## Effects -/

def Reply.shown : Reply → List Entry
  | .created entry _ => [entry]
  | .entry found => found.toList
  | .entries all => all
  | _ => []

/-- The id that a reply reports for a new entry. -/
def Reply.newId? : Reply → Option Nat
  | .id given => some given
  | .created entry isNew => if isNew then some entry.id else none
  | _ => none

/-- Whether a command went as far as to create an entry, be it accepted or rejected. -/
def attempts : Command → Reply → Bool
  | .insert _, _ => true
  | .insertIfAbsent _, .created _ isNew => isNew
  | .insertIfAbsent _, .rejected _ => true
  | _, _ => false

/-- What a command may do to an archive, with the reply to it and the archive behind it. -/
inductive Effect (archive : Archive) : Command → Reply → Archive → Prop
  | answered {command : Command} {reply : Reply} (hattempts : attempts command reply = false)
      (hnew : reply.newId? = none) (hshown : ∀ entry ∈ reply.shown, entry ∈ archive.entries) :
      Effect archive command reply archive
  | cleared : Effect archive .clear .done archive.clear
  | created {command : Command} {reply : Reply} {draft : Draft} {entry : Entry}
      (hentry : draft.toEntry archive.nextId = .ok entry)
      (hattempts : attempts command reply = true)
      (hnew : reply.newId? = some entry.id) (hshown : ∀ other ∈ reply.shown, other = entry) :
      Effect archive command reply (archive.insert draft).2
  | rejected {command : Command} {issues : List Issue}
      (hattempts : attempts command (.rejected issues) = true) :
      Effect archive command (.rejected issues) { archive with nextId := archive.nextId + 1 }

theorem mem_entries_of_lookup {id : Nat} (hlookup : archive.records.lookup id = some entry) :
    entry ∈ archive.entries := by
  obtain ⟨before, behind, hrecords, -⟩ := List.lookup_eq_some_iff.mp hlookup
  simp [entries, hrecords]

theorem mem_entries_of_findById {id : Int} (hfound : archive.findById id = some entry) :
    entry ∈ archive.entries := by
  cases id with
  | ofNat id => exact mem_entries_of_lookup hfound
  | negSucc id => cases hfound

theorem mem_entries_of_findByCanonical {canonical : Text}
    (hfound : archive.findByCanonical canonical = .ok (some entry)) : entry ∈ archive.entries := by
  unfold findByCanonical at hfound
  split at hfound
  · next id _ =>
      cases hlookup : archive.records.lookup id with
      | none =>
          rw [recordOf, hlookup] at hfound
          cases hfound
      | some found =>
          rw [recordOf, hlookup] at hfound
          cases hfound
          exact mem_entries_of_lookup hlookup
  · cases hfound

theorem mem_entries_of_search {canonical : Option Text}
    (hfound : archive.search canonical = .ok (some entry)) : entry ∈ archive.entries := by
  cases canonical with
  | none => cases hfound
  | some canonical => exact mem_entries_of_findByCanonical hfound

theorem effect_insert (draft : Draft) (archive : Archive) :
    Effect archive (.insert draft) (perform (.insert draft) archive).1
      (perform (.insert draft) archive).2 := by
  cases hentry : draft.toEntry archive.nextId with
  | ok entry =>
      have hinsert := insert_of_entry hentry
      have hperform : perform (.insert draft) archive =
          (.id entry.id, (archive.insert draft).2) := by
        simp only [perform, hinsert]
      rw [hperform]
      exact .created hentry rfl rfl (by simp [Reply.shown])
  | error issues =>
      simp only [perform, insert_of_issues hentry]
      exact .rejected rfl

theorem perform_insertIfAbsent_of_found {draft : Draft}
    (hfound : archive.search draft.canonical = .ok (some entry)) :
    perform (.insertIfAbsent draft) archive = (.created entry false, archive) := by
  simp only [perform, insertIfAbsent_of_found hfound]

theorem effect_insertIfAbsent (draft : Draft) (archive : Archive) :
    Effect archive (.insertIfAbsent draft) (perform (.insertIfAbsent draft) archive).1
      (perform (.insertIfAbsent draft) archive).2 := by
  cases hsearch : archive.search draft.canonical with
  | error fault =>
      simp only [perform, insertIfAbsent_of_fault hsearch]
      exact .answered rfl rfl (by simp [Reply.shown])
  | ok found =>
      cases found with
      | some entry =>
          rw [perform_insertIfAbsent_of_found hsearch]
          exact .answered rfl rfl (by simpa [Reply.shown] using mem_entries_of_search hsearch)
      | none =>
          cases hentry : draft.toEntry archive.nextId with
          | ok entry =>
              have hperform : perform (.insertIfAbsent draft) archive =
                  (.created entry true, (archive.insert draft).2) := by
                simp only [perform, insertIfAbsent_of_absent hsearch hentry]
              rw [hperform]
              exact .created hentry rfl rfl (by simp [Reply.shown])
          | error issues =>
              simp only [perform, insertIfAbsent_of_issues hsearch hentry]
              exact .rejected rfl

theorem shown_askById (id : Option Int) (archive : Archive) :
    ∀ entry ∈ (archive.askById id).shown, entry ∈ archive.entries := by
  intro entry hentry
  cases id with
  | none => cases hentry
  | some id =>
      have hfound : archive.findById id = some entry := by
        simpa [askById, Reply.shown] using hentry
      exact mem_entries_of_findById hfound

/-- Each command has one of the four effects. -/
theorem effect_perform (command : Command) (archive : Archive) :
    Effect archive command (perform command archive).1 (perform command archive).2 := by
  cases command with
  | insert draft => exact effect_insert draft archive
  | insertIfAbsent draft => exact effect_insertIfAbsent draft archive
  | findByCanonical canonical =>
      simp only [perform]
      split
      · next found hsearch =>
          apply Effect.answered rfl rfl
          intro entry hentry
          obtain rfl : found = some entry := by simpa [Reply.shown] using hentry
          exact mem_entries_of_search hsearch
      · exact .answered rfl rfl (by simp [Reply.shown])
  | findById id =>
      apply Effect.answered rfl
      · cases id <;> rfl
      · exact shown_askById id archive
  | entries => exact .answered rfl rfl fun entry hentry => hentry
  | size => exact .answered rfl rfl (by simp [perform, Reply.shown])
  | clear => exact .cleared
  | revise id =>
      -- An entry that is found is refused a new text; whatever else is found is the reply.
      simp only [perform]
      split
      · exact .answered rfl rfl (by simp [Reply.shown])
      · apply Effect.answered rfl
        · cases id <;> rfl
        · exact shown_askById id archive

def Command.reads : Command → Bool
  | .insert _ | .insertIfAbsent _ | .clear => false
  | _ => true

theorem perform_of_reads (hreads : command.reads) (archive : Archive) :
    (perform command archive).2 = archive := by
  cases command with
  | insert => cases hreads
  | insertIfAbsent => cases hreads
  | clear => cases hreads
  | revise id =>
      simp only [perform]
      split <;> rfl
  | findByCanonical canonical =>
      simp only [perform]
      split <;> rfl
  | findById => rfl
  | entries => rfl
  | size => rfl

/-! ## States of a run -/

/-- The archive of a run on a fresh one before the command at a position. -/
abbrev stateAt : List Command → Nat → Archive :=
  Run.stateAt perform .empty

abbrev replies : List Command → List Reply :=
  Run.replies perform .empty

/-- A reply tells the effect of the command at its position. -/
theorem effect_of_reply (hreply : (replies commands)[position]? = some reply) :
    ∃ command, commands[position]? = some command ∧
      Effect (stateAt commands position) command reply (stateAt commands (position + 1)) := by
  obtain ⟨command, hcommand, rfl⟩ := Run.exists_input_of_reply hreply
  refine ⟨command, hcommand, ?_⟩
  rw [stateAt, Run.stateAt_succ hcommand]
  exact effect_perform command _

theorem Coherent.effect {later : Archive} (hcoherent : archive.Coherent)
    (heffect : Effect archive command reply later) : later.Coherent := by
  cases heffect with
  | answered => exact hcoherent
  | cleared => exact hcoherent.clear
  | created => exact hcoherent.insert _
  | rejected => exact hcoherent.withNextId

theorem coherent_stateAt (commands : List Command) (position : Nat) :
    (stateAt commands position).Coherent :=
  Run.stateAt_invariant coherent_empty
    (fun command archive hcoherent => hcoherent.effect (effect_perform command archive)) commands
    position

end Formulary.Archive
