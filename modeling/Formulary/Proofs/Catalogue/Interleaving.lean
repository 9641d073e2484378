import Formulary.Catalogue.Interleaving
import Formulary.Proofs.Catalogue

/-!
# Interleaved stores and sequential executions

Between the search of a store and its insertion other stores and commands may reach the archive.
Whatever they do, a store touches the archive in one step only, the one that answers it, and that
step has the effect of the whole store.  An interleaving therefore agrees with the execution that
runs each store as a whole at the turn that answers it.  Stores of texts that are refused never
reach the archive and may run first.
-/

namespace Formulary.Catalogue

variable {archive : Archive} {texts : List Text} {turns : List Turn} {text : Text}
variable {submission : Submission} {index position : Nat}

/-! ## Steps of a store -/

/-- What a store that is not answered is about to find or to put on record. -/
def Store.submission? : Store → Option Submission
  | searching submission | inserting submission => some submission
  | answered _ => none

/-- A search that finds nothing leaves the store pending; else the whole store ends with it. -/
theorem step_searching (hsubmission : Submission.ofText text = .ok submission)
    (archive : Archive) :
    (Store.searching submission).step archive = (.inserting submission, archive) ∨
      (Store.searching submission).step archive =
        (.answered (store text archive).1, (store text archive).2) := by
  cases hsearch : archive.findByCanonical submission.canonical with
  | error fault =>
      rw [store_of_failed_search hsubmission hsearch]
      exact .inr (by simp only [Store.step, hsearch])
  | ok found =>
      cases found with
      | none => exact .inl (by simp only [Store.step, hsearch])
      | some entry =>
          rw [store_of_found hsubmission hsearch]
          exact .inr (by simp only [Store.step, hsearch])

theorem step_inserting (hsubmission : Submission.ofText text = .ok submission)
    (archive : Archive) :
    (Store.inserting submission).step archive =
      (.answered (store text archive).1, (store text archive).2) := by
  -- The insertion searches for the canonical text once more.
  have hsearch : archive.search submission.draft.canonical =
      archive.findByCanonical submission.canonical := rfl
  cases hfound : archive.findByCanonical submission.canonical with
  | error fault =>
      rw [hfound] at hsearch
      rw [store_of_failed_search hsubmission hfound, Store.step,
        Archive.insertIfAbsent_of_fault hsearch]
  | ok found =>
      rw [hfound] at hsearch
      cases found with
      | some entry =>
          rw [store_of_found hsubmission hfound, Store.step,
            Archive.insertIfAbsent_of_found hsearch]
      | none =>
          have hentry := submission.toEntry_draft archive.nextId
          rw [store_of_absent hsubmission hfound, Store.step,
            Archive.insertIfAbsent_of_absent hsearch hentry, Submission.entry]

/-- A step of a store either finds nothing and leaves the archive alone, or does what the whole
store does. -/
theorem step_of_pending {pending : Store} (hsubmission : Submission.ofText text = .ok submission)
    (hpending : pending.submission? = some submission) (archive : Archive) :
    pending.step archive = (.inserting submission, archive) ∨
      pending.step archive = (.answered (store text archive).1, (store text archive).2) := by
  cases pending with
  | searching =>
      cases hpending
      exact step_searching hsubmission archive
  | inserting =>
      cases hpending
      exact .inr (step_inserting hsubmission archive)
  | answered => cases hpending

namespace Concurrent

def pending? (state : Concurrent) (index : Nat) : Option Submission :=
  state.stores[index]?.bind Store.submission?

/-- Whether a turn carries out a command or answers a store. -/
def takesEffect (state : Concurrent) : Turn → Bool
  | .step index =>
    (state.pending? index).isSome && ((state.turn (.step index)).pending? index).isNone
  | .command _ => true

variable {state : Concurrent}

theorem turn_step_of_answered (hpending : state.pending? index = none) :
    state.turn (.step index) = state := by
  cases hstore : state.stores[index]? with
  | none => simp only [turn, hstore]
  | some pending =>
      cases pending with
      | answered result =>
          obtain ⟨hlt, hget⟩ := List.getElem?_eq_some_iff.mp hstore
          simp only [turn, hstore, Store.step]
          rw [← hget, List.set_getElem_self]
      | searching => simp [pending?, hstore, Store.submission?] at hpending
      | inserting => simp [pending?, hstore, Store.submission?] at hpending

theorem turn_step_of_pending (hsubmission : Submission.ofText text = .ok submission)
    (hpending : state.pending? index = some submission) :
    state.turn (.step index) =
        { state with stores := state.stores.set index (.inserting submission) } ∨
      state.turn (.step index) =
        { stores := state.stores.set index (.answered (store text state.archive).1)
          archive := (store text state.archive).2 } := by
  obtain ⟨pending, hstore, hpending⟩ := Option.bind_eq_some_iff.mp hpending
  rcases step_of_pending hsubmission hpending state.archive with hstep | hstep
  · exact .inl (by simp only [turn, hstore, hstep])
  · exact .inr (by simp only [turn, hstore, hstep])

theorem pending?_set (hpending : state.pending? index = some submission) (pending : Store)
    (later : Archive) (other : Nat) :
    pending? ⟨state.stores.set index pending, later⟩ other =
      if index = other then pending.submission? else state.pending? other := by
  obtain ⟨_, hstore, -⟩ := Option.bind_eq_some_iff.mp hpending
  obtain ⟨hlt, -⟩ := List.getElem?_eq_some_iff.mp hstore
  by_cases hother : index = other
  · subst hother
    simp [pending?, hlt]
  · rw [if_neg hother, pending?, List.getElem?_set_ne hother, pending?]

end Concurrent

/-! ## Sequential executions -/

/-- What the stores of a sequential execution answered, in its order, and the archive. -/
structure Serial where
  results : List (Nat × Except Fault Nat)
  archive : Archive

namespace Serial

/-- One turn of a sequential execution: a store runs as a whole, or a command is carried out. -/
def turn (texts : List Text) (serial : Serial) : Turn → Serial
  | .step index =>
    match texts[index]? with
    | some text =>
      { results := serial.results ++ [(index, (store text serial.archive).1)]
        archive := (store text serial.archive).2 }
    | none => serial
  | .command command => { serial with archive := (serial.archive.perform command).2 }

def run (texts : List Text) (serial : Serial) (turns : List Turn) : Serial :=
  turns.foldl (turn texts) serial

variable {serial : Serial}

theorem turn_step (htext : texts[index]? = some text) :
    serial.turn texts (.step index) =
      { results := serial.results ++ [(index, (store text serial.archive).1)]
        archive := (store text serial.archive).2 } := by
  simp only [turn, htext]

theorem run_append (first last : List Turn) :
    serial.run texts (first ++ last) = (serial.run texts first).run texts last :=
  List.foldl_append

end Serial

/-! ## Agreement -/

/-- A sequential execution has the archive of an interleaving and the answers of those of its stores
that are answered, each of which it runs once. -/
structure Agrees (state : Concurrent) (serial : Serial) : Prop where
  archive : serial.archive = state.archive
  results : ∀ index result,
    (index, result) ∈ serial.results ↔ state.stores[index]? = some (.answered result)
  once : serial.results.Pairwise fun left right => left.1 ≠ right.1

/-- The stores that are not answered are those of texts that are fit to be put on record. -/
def Started (texts : List Text) (state : Concurrent) : Prop :=
  ∀ index submission, state.pending? index = some submission →
    ∃ text, texts[index]? = some text ∧ Submission.ofText text = .ok submission

section Step

variable {state : Concurrent} {serial : Serial}

theorem Agrees.not_mem_results (hagrees : Agrees state serial)
    (hpending : state.pending? index = some submission) {result : Except Fault Nat} :
    (index, result) ∉ serial.results := by
  intro hresult
  rw [Concurrent.pending?, (hagrees.results index result).mp hresult] at hpending
  cases hpending

theorem Agrees.searched (hagrees : Agrees state serial)
    (hpending : state.pending? index = some submission) :
    Agrees { state with stores := state.stores.set index (.inserting submission) } serial where
  archive := hagrees.archive
  results := by
    intro other result
    by_cases hother : index = other
    · subst hother
      have habsent : (index, result) ∉ serial.results := hagrees.not_mem_results hpending
      simp [habsent, List.getElem?_set]
    · rw [hagrees.results, List.getElem?_set_ne hother]
  once := hagrees.once

theorem Agrees.answered (hagrees : Agrees state serial)
    (hpending : state.pending? index = some submission) (htext : texts[index]? = some text) :
    Agrees
      { stores := state.stores.set index (.answered (store text state.archive).1)
        archive := (store text state.archive).2 }
      (serial.turn texts (.step index)) := by
  obtain ⟨pending, hstore, -⟩ := Option.bind_eq_some_iff.mp hpending
  obtain ⟨hlt, -⟩ := List.getElem?_eq_some_iff.mp hstore
  rw [Serial.turn_step htext, hagrees.archive]
  constructor
  · rfl
  · intro other result
    rw [List.mem_append, List.mem_singleton]
    by_cases hother : index = other
    · subst hother
      have habsent : (index, result) ∉ serial.results := hagrees.not_mem_results hpending
      simp [habsent, hlt, eq_comm]
    · rw [hagrees.results, List.getElem?_set_ne hother]
      simp [Ne.symm hother]
  · rw [List.pairwise_append]
    refine ⟨hagrees.once, List.pairwise_singleton _ _, ?_⟩
    rintro ⟨earlier, result⟩ hearlier added hadded rfl
    rw [List.mem_singleton.mp hadded] at hearlier
    exact hagrees.not_mem_results hpending hearlier

theorem Agrees.command (hagrees : Agrees state serial) (texts : List Text)
    (command : Archive.Command) :
    Agrees (state.turn (.command command)) (serial.turn texts (.command command)) where
  archive := by simp only [Serial.turn, Concurrent.turn, hagrees.archive]
  results := hagrees.results
  once := hagrees.once

theorem Started.set (hstarted : Started texts state)
    (hpending : state.pending? index = some submission) {pending : Store}
    (hsame : ∀ found, pending.submission? = some found → found = submission) (later : Archive) :
    Started texts ⟨state.stores.set index pending, later⟩ := by
  intro other found hfound
  rw [Concurrent.pending?_set hpending] at hfound
  split at hfound
  next hother =>
      subst hother
      rw [hsame found hfound]
      exact hstarted index submission hpending
  next => exact hstarted other found hfound

/-- After a turn both still agree if the sequential execution takes the turns that take effect. -/
theorem Agrees.turn (hagrees : Agrees state serial) (hstarted : Started texts state) (turn : Turn) :
    Agrees (state.turn turn) (if state.takesEffect turn then serial.turn texts turn else serial) ∧
      Started texts (state.turn turn) := by
  cases turn with
  | command command => exact ⟨hagrees.command texts command, hstarted⟩
  | step index =>
      cases hpending : state.pending? index with
      | none =>
          rw [Concurrent.takesEffect, hpending, Concurrent.turn_step_of_answered hpending]
          exact ⟨hagrees, hstarted⟩
      | some submission =>
          obtain ⟨text, htext, hsubmission⟩ := hstarted index submission hpending
          -- Either the search found nothing, or the step has the effect of the whole store.
          rcases Concurrent.turn_step_of_pending hsubmission hpending with hturn | hturn
          · have hlater : (state.turn (.step index)).pending? index = some submission := by
              rw [hturn, Concurrent.pending?_set hpending, if_pos rfl]
              rfl
            rw [Concurrent.takesEffect, hpending, hlater, hturn]
            refine ⟨hagrees.searched hpending, hstarted.set hpending ?_ _⟩
            rintro found ⟨⟩
            rfl
          · have hlater : (state.turn (.step index)).pending? index = none := by
              rw [hturn, Concurrent.pending?_set hpending, if_pos rfl]
              rfl
            rw [Concurrent.takesEffect, hpending, hlater, hturn]
            refine ⟨hagrees.answered hpending htext, hstarted.set hpending ?_ _⟩
            rintro found ⟨⟩

end Step

/-! ## The start -/

def refusal? (texts : List Text) (index : Nat) : Option Fault :=
  match texts[index]?.map Submission.ofText with
  | some (.error fault) => some fault
  | _ => none

def refusals (texts : List Text) : List Turn :=
  ((List.range texts.length).filter fun index => (refusal? texts index).isSome).map .step

theorem refusal?_eq_some_iff {fault : Fault} :
    refusal? texts index = some fault ↔
      ∃ text, texts[index]? = some text ∧ Submission.ofText text = .error fault := by
  unfold refusal?
  cases htext : texts[index]? with
  | none => simp
  | some text => cases hsubmission : Submission.ofText text <;> simp [hsubmission]

theorem answered_start_iff {result : Except Fault Nat} :
    (Concurrent.start texts archive).stores[index]? = some (.answered result) ↔
      ∃ fault, refusal? texts index = some fault ∧ result = .error fault := by
  simp only [Concurrent.start, List.getElem?_map, Option.map_eq_some_iff, refusal?_eq_some_iff]
  constructor
  · rintro ⟨text, htext, hstore⟩
    unfold Store.ofText at hstore
    split at hstore
    next => cases hstore
    next fault hfault =>
        cases hstore
        exact ⟨fault, ⟨text, htext, hfault⟩, rfl⟩
  · rintro ⟨fault, ⟨text, htext, hfault⟩, rfl⟩
    exact ⟨text, htext, by rw [Store.ofText, hfault]⟩

theorem started_start (texts : List Text) (archive : Archive) :
    Started texts (Concurrent.start texts archive) := by
  intro index submission hpending
  obtain ⟨pending, hstore, hpending⟩ := Option.bind_eq_some_iff.mp hpending
  rw [Concurrent.start, List.getElem?_map] at hstore
  obtain ⟨text, htext, rfl⟩ := Option.map_eq_some_iff.mp hstore
  refine ⟨text, htext, ?_⟩
  unfold Store.ofText at hpending
  split at hpending
  next found hfound =>
      cases hpending
      exact hfound
  next => cases hpending

/-- Texts that are refused do not reach the archive. -/
theorem run_refused (indices : List Nat) (serial : Serial) :
    serial.run texts ((indices.filter fun index => (refusal? texts index).isSome).map .step) =
      { serial with
        results := serial.results ++
          indices.filterMap fun index => (refusal? texts index).map fun fault =>
            (index, .error fault) } := by
  induction indices generalizing serial with
  | nil => simp [Serial.run]
  | cons index rest ih =>
      cases hrefusal : refusal? texts index with
      | none => simp [hrefusal, ih]
      | some fault =>
          obtain ⟨text, htext, hfault⟩ := refusal?_eq_some_iff.mp hrefusal
          have hturn : serial.turn texts (.step index) =
              { serial with results := serial.results ++ [(index, .error fault)] } := by
            rw [Serial.turn_step htext, store_of_fault hfault]
          simp only [List.filter_cons, hrefusal, Option.isSome_some, if_true, List.map_cons]
          rw [Serial.run, List.foldl_cons, ← Serial.run, hturn, ih]
          simp [hrefusal]

theorem agrees_start (texts : List Text) (archive : Archive) :
    Agrees (Concurrent.start texts archive) (Serial.run texts ⟨[], archive⟩ (refusals texts)) := by
  rw [refusals, run_refused, List.nil_append]
  constructor
  · rfl
  · intro index result
    rw [answered_start_iff]
    constructor
    · intro hresult
      obtain ⟨other, -, hother⟩ := List.mem_filterMap.mp hresult
      obtain ⟨fault, hfault, hmade⟩ := Option.map_eq_some_iff.mp hother
      cases hmade
      exact ⟨fault, hfault, rfl⟩
    · rintro ⟨fault, hfault, rfl⟩
      obtain ⟨text, htext, -⟩ := refusal?_eq_some_iff.mp hfault
      obtain ⟨hlt, -⟩ := List.getElem?_eq_some_iff.mp htext
      refine List.mem_filterMap.mpr ⟨index, List.mem_range.mpr hlt, ?_⟩
      rw [hfault]
      rfl
  · refine List.Pairwise.filterMap _ ?_ List.nodup_range
    intro left right hne leftResult hleft rightResult hright
    obtain ⟨_, -, rfl⟩ := Option.map_eq_some_iff.mp hleft
    obtain ⟨_, -, rfl⟩ := Option.map_eq_some_iff.mp hright
    exact hne

/-! ## The order of the sequential execution -/

def interleaved (texts : List Text) (archive : Archive) (turns : List Turn) (position : Nat) :
    Concurrent :=
  (Concurrent.start texts archive).run (turns.take position)

/-- The sequential execution that runs the stores of refused texts first and then takes some turns
of an interleaving, given by their positions. -/
def serialized (texts : List Text) (archive : Archive) (turns : List Turn) (order : List Nat) :
    Serial :=
  Serial.run texts ⟨[], archive⟩
    (refusals texts ++ order.filterMap fun position => turns[position]?)

/-- The positions before a bound whose turns take effect. -/
def effects (texts : List Text) (archive : Archive) (turns : List Turn) (bound : Nat) : List Nat :=
  (List.range bound).filter fun position =>
    turns[position]?.any (interleaved texts archive turns position).takesEffect

theorem interleaved_succ {turn : Turn} (hturn : turns[position]? = some turn) :
    interleaved texts archive turns (position + 1) =
      (interleaved texts archive turns position).turn turn := by
  simp [interleaved, Concurrent.run, List.take_add_one, hturn]

theorem effects_succ {turn : Turn} (hturn : turns[position]? = some turn) :
    effects texts archive turns (position + 1) =
      effects texts archive turns position ++
        if (interleaved texts archive turns position).takesEffect turn then [position] else [] := by
  simp only [effects, List.range_succ, List.filter_append, List.filter_singleton, hturn,
    Option.any_some, Bool.cond_eq_ite]

theorem mem_effects_iff {bound : Nat} {turn : Turn} (hturn : turns[position]? = some turn) :
    position ∈ effects texts archive turns bound ↔
      position < bound ∧ (interleaved texts archive turns position).takesEffect turn := by
  simp [effects, hturn]

theorem pairwise_effects (bound : Nat) :
    (effects texts archive turns bound).Pairwise (· < ·) :=
  List.pairwise_lt_range.filter _

theorem effects_of_le {bound : Nat} (hle : position ≤ bound) :
    effects texts archive turns position =
      (effects texts archive turns bound).filter fun other => other < position := by
  obtain ⟨more, rfl⟩ := Nat.exists_eq_add_of_le hle
  rw [effects, effects, List.filter_filter, List.range_add, List.filter_append]
  have hbehind : (List.map (position + ·) (List.range more)).filter (fun other =>
      decide (other < position) &&
        turns[other]?.any (interleaved texts archive turns other).takesEffect) = [] := by
    simp [List.filter_eq_nil_iff]
  rw [hbehind, List.append_nil]
  apply List.filter_congr
  intro other hother
  simp [List.mem_range.mp hother]

theorem serialized_append (order last : List Nat) :
    serialized texts archive turns (order ++ last) =
      (serialized texts archive turns order).run texts
        (last.filterMap fun position => turns[position]?) := by
  rw [serialized, List.filterMap_append, ← List.append_assoc, Serial.run_append, serialized]

theorem agrees_effects (texts : List Text) (archive : Archive) (turns : List Turn)
    (hle : position ≤ turns.length) :
    Agrees (interleaved texts archive turns position)
        (serialized texts archive turns (effects texts archive turns position)) ∧
      Started texts (interleaved texts archive turns position) := by
  induction position with
  | zero =>
      have hserialized : serialized texts archive turns (effects texts archive turns 0) =
          Serial.run texts ⟨[], archive⟩ (refusals texts) := by simp [serialized, effects]
      rw [hserialized]
      exact ⟨agrees_start texts archive, started_start texts archive⟩
  | succ position ih =>
      have hturn := List.getElem?_eq_getElem (Nat.lt_of_succ_le hle)
      obtain ⟨hagrees, hstarted⟩ := ih (Nat.le_of_succ_le hle)
      have hnext := hagrees.turn hstarted turns[position]
      rw [interleaved_succ hturn, effects_succ hturn, serialized_append]
      -- The sequential execution goes on exactly if the turn takes effect.
      split at hnext
      next heffect => simpa [heffect, hturn, Serial.run] using hnext
      next heffect => simpa [heffect, Serial.run] using hnext

/-- Positions of turns, in the order in which a sequential execution takes them, whose effect is
that of an interleaving.  Every command is carried out at its own turn, and a store runs as a whole
at that one of its own turns that answers it. -/
structure Linearizes (texts : List Text) (archive : Archive) (turns : List Turn)
    (order : List Nat) : Prop where
  ascending : order.Pairwise (· < ·)
  commands : ∀ position command, turns[position]? = some (.command command) → position ∈ order
  answers : ∀ position index, turns[position]? = some (.step index) →
    (position ∈ order ↔
      ((interleaved texts archive turns position).pending? index).isSome ∧
        ((interleaved texts archive turns (position + 1)).pending? index).isNone)
  agrees : Agrees ((Concurrent.start texts archive).run turns)
    (serialized texts archive turns order)
  /-- Each turn finds the same archive in both. -/
  before : ∀ position < turns.length,
    (serialized texts archive turns (order.filter fun other => other < position)).archive =
      (interleaved texts archive turns position).archive

theorem linearizes_effects (texts : List Text) (archive : Archive) (turns : List Turn) :
    Linearizes texts archive turns (effects texts archive turns turns.length) where
  ascending := pairwise_effects turns.length
  commands := by
    intro position command hturn
    obtain ⟨hlt, -⟩ := List.getElem?_eq_some_iff.mp hturn
    exact (mem_effects_iff hturn).mpr ⟨hlt, rfl⟩
  answers := by
    intro position index hturn
    obtain ⟨hlt, -⟩ := List.getElem?_eq_some_iff.mp hturn
    rw [mem_effects_iff hturn, interleaved_succ hturn]
    simp [hlt, Concurrent.takesEffect]
  agrees := by
    have hagrees := (agrees_effects texts archive turns (Nat.le_refl turns.length)).1
    rwa [interleaved, List.take_length] at hagrees
  before := by
    intro position hlt
    rw [← effects_of_le (Nat.le_of_lt hlt)]
    exact (agrees_effects texts archive turns (Nat.le_of_lt hlt)).1.archive

end Formulary.Catalogue
