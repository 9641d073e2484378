import Formulary.Proofs.Archive.Run
import Formulary.Proofs.Catalogue.Interleaving
import Formulary.Proofs.Catalogue.Record

/-!
# Interleaved stores are linearizable

An interleaving of stores has a sequential order that agrees with it, and every store comes to an
end.  What sequential executions keep therefore holds of interleavings too: no canonical text is on
record twice, and until the archive is cleared the stores of one tree answer one id.
-/

namespace Formulary.Catalogue

variable {archive : Archive} {texts : List Text} {turns : List Turn} {index : Nat}

/-! ## Stores come to an end -/

/-- How many steps a store is from its answer at most. -/
def Store.remaining : Store → Nat
  | searching _ => 2
  | inserting _ => 1
  | answered _ => 0

theorem remaining_step (pending : Store) (archive : Archive) :
    (pending.step archive).1.remaining ≤ pending.remaining - 1 := by
  cases pending with
  | searching =>
      simp only [Store.step]
      split <;> simp [Store.remaining]
  | inserting =>
      simp only [Store.step]
      split <;> simp [Store.remaining]
  | answered => exact Nat.zero_le _

def Turn.isStep (index : Nat) : Turn → Bool
  | .step other => other == index
  | .command _ => false

namespace Concurrent

def remaining (state : Concurrent) (index : Nat) : Nat :=
  (state.stores[index]?.map Store.remaining).getD 0

theorem remaining_turn (state : Concurrent) (turn : Turn) (index : Nat) :
    (state.turn turn).remaining index ≤
      state.remaining index - if turn.isStep index then 1 else 0 := by
  cases turn with
  | command => simp [remaining, Concurrent.turn, Turn.isStep]
  | step other =>
      cases hstore : state.stores[other]? with
      | none =>
          by_cases hother : other = index
          · subst hother
            simp [remaining, Concurrent.turn, hstore]
          · simp [Concurrent.turn, hstore, Turn.isStep, hother]
      | some pending =>
          obtain ⟨hlt, -⟩ := List.getElem?_eq_some_iff.mp hstore
          by_cases hother : other = index
          · subst hother
            have hlater : (state.turn (.step other)).stores[other]? =
                some (pending.step state.archive).1 := by
              simp only [Concurrent.turn, hstore, List.getElem?_set_self hlt]
            simpa [remaining, hlater, hstore, Turn.isStep] using
              remaining_step pending state.archive
          · simp [remaining, Concurrent.turn, hstore, Turn.isStep, hother]

theorem remaining_run (state : Concurrent) (turns : List Turn) (index : Nat) :
    (state.run turns).remaining index ≤
      state.remaining index - turns.countP (Turn.isStep index) := by
  induction turns generalizing state with
  | nil => simp [run]
  | cons turn rest ih =>
      have hturn := state.remaining_turn turn index
      have hrest := ih (state.turn turn)
      rw [run, List.foldl_cons, ← run, List.countP_cons]
      omega

theorem answered_of_remaining {state : Concurrent} {pending : Store}
    (hstore : state.stores[index]? = some pending) (hremaining : state.remaining index = 0) :
    ∃ result, pending = .answered result := by
  simp only [remaining, hstore, Option.map_some, Option.getD_some] at hremaining
  cases pending with
  | searching => cases hremaining
  | inserting => cases hremaining
  | answered result => exact ⟨result, rfl⟩

end Concurrent

theorem remaining_start (texts : List Text) (archive : Archive) (index : Nat) :
    (Concurrent.start texts archive).remaining index ≤ 2 := by
  rw [Concurrent.remaining, Concurrent.start, List.getElem?_map]
  cases texts[index]? with
  | none => simp
  | some text =>
      simp only [Option.map_some, Option.getD_some, Store.ofText]
      split <;> simp [Store.remaining]

theorem length_run (state : Concurrent) (turns : List Turn) :
    (state.run turns).stores.length = state.stores.length := by
  induction turns generalizing state with
  | nil => rfl
  | cons turn rest ih =>
      rw [Concurrent.run, List.foldl_cons, ← Concurrent.run, ih]
      cases turn with
      | command => rfl
      | step index =>
          simp only [Concurrent.turn]
          split <;> simp

/-- A store is answered when it had two turns. -/
theorem exists_result_of_turns (archive : Archive) (hlt : index < texts.length)
    (hturns : 2 ≤ turns.countP (Turn.isStep index)) :
    ∃ result, ((Concurrent.start texts archive).run turns).stores[index]? =
      some (.answered result) := by
  have hstart := remaining_start texts archive index
  have hrun := (Concurrent.start texts archive).remaining_run turns index
  have hstore : index < ((Concurrent.start texts archive).run turns).stores.length := by
    rw [length_run, Concurrent.start, List.length_map]
    exact hlt
  have hpending := List.getElem?_eq_getElem hstore
  obtain ⟨result, hresult⟩ := Concurrent.answered_of_remaining hpending (by omega)
  exact ⟨result, by rw [hpending, hresult]⟩

/-! ## What sequential executions keep -/

/-- Each text that is read is answered with the id of an entry on record that has its tree. -/
def Recorded (texts : List Text) (serial : Serial) : Prop :=
  ∀ index result text tree, (index, result) ∈ serial.results → texts[index]? = some text →
    Expr.parse text = .ok tree →
      ∃ entry ∈ serial.archive.entries, result = .ok entry.id ∧ Expr.parse entry.source = .ok tree

section Serial

variable {serial : Serial}

theorem Deduplicated.turn (hdeduplicated : Deduplicated serial.archive) {turn : Turn}
    (hturn : ∀ command, turn = .command command → command.reads ∨ command = .clear) :
    Deduplicated (serial.turn texts turn).archive := by
  cases turn with
  | command command =>
      rcases hturn command rfl with hreads | rfl
      · simpa only [Serial.turn, Archive.perform_of_reads hreads] using hdeduplicated
      · exact hdeduplicated.clear
  | step index =>
      cases htext : texts[index]? with
      | none => simpa only [Serial.turn, htext] using hdeduplicated
      | some text =>
          rw [Serial.turn_step htext]
          exact hdeduplicated.store text

theorem Recorded.turn (hrecorded : Recorded texts serial) (hsound : Sound serial.archive)
    {turn : Turn} (hturn : ∀ command, turn = .command command → command.reads) :
    Recorded texts (serial.turn texts turn) := by
  cases turn with
  | command command =>
      simpa only [Recorded, Serial.turn, Archive.perform_of_reads (hturn command rfl)] using
        hrecorded
  | step index =>
      cases hstored : texts[index]? with
      | none => simpa only [Serial.turn, hstored] using hrecorded
      | some stored =>
          rw [Serial.turn_step hstored]
          intro other result text tree hresult htext hparse
          rcases List.mem_append.mp hresult with hresult | hresult
          · obtain ⟨entry, hentry, hsame⟩ := hrecorded other result text tree hresult htext hparse
            exact ⟨entry, (grows_store stored serial.archive).kept.subset hentry, hsame⟩
          · obtain ⟨rfl, rfl⟩ := Prod.mk.inj (List.mem_singleton.mp hresult)
            obtain rfl : stored = text := Option.some.inj (hstored.symm.trans htext)
            obtain ⟨id, hid⟩ := exists_id_of_store hsound hparse
            obtain ⟨entry, hentry, rfl, found, hsource, hfound⟩ := exists_entry_of_store hsound hid
            obtain rfl : found = tree := Except.ok.inj (hfound.symm.trans hparse)
            exact ⟨entry, hentry, hid, hsource⟩

theorem Deduplicated.run (hdeduplicated : Deduplicated serial.archive)
    (hturns : ∀ command, .command command ∈ turns → command.reads ∨ command = .clear) :
    Deduplicated (serial.run texts turns).archive := by
  induction turns generalizing serial with
  | nil => exact hdeduplicated
  | cons turn rest ih =>
      apply ih
      · apply hdeduplicated.turn
        rintro command rfl
        exact hturns command List.mem_cons_self
      · intro command hcommand
        exact hturns command (List.mem_cons_of_mem _ hcommand)

theorem Recorded.run (hrecorded : Recorded texts serial)
    (hdeduplicated : Deduplicated serial.archive)
    (hturns : ∀ command, .command command ∈ turns → command.reads) :
    Recorded texts (serial.run texts turns) := by
  induction turns generalizing serial with
  | nil => exact hrecorded
  | cons turn rest ih =>
      have hturn (command : Archive.Command) (hsame : turn = .command command) : command.reads := by
        subst hsame
        exact hturns command List.mem_cons_self
      apply ih
      · exact hrecorded.turn hdeduplicated.sound hturn
      · exact hdeduplicated.turn fun command hsame => .inl (hturn command hsame)
      · intro command hcommand
        exact hturns command (List.mem_cons_of_mem _ hcommand)

end Serial

/-! ## Linearizability -/

section Linearizes

variable {order : List Nat}

theorem mem_turns_of_serialized {command : Archive.Command}
    (hcommand : .command command ∈
      refusals texts ++ order.filterMap fun position => turns[position]?) :
    .command command ∈ turns := by
  rcases List.mem_append.mp hcommand with hcommand | hcommand
  · obtain ⟨_, -, hstep⟩ := List.mem_map.mp hcommand
    cases hstep
  · obtain ⟨position, -, hturn⟩ := List.mem_filterMap.mp hcommand
    exact List.mem_of_getElem? hturn

variable (hlinearizes : Linearizes texts archive turns order)
variable (hdeduplicated : Deduplicated archive)

include hlinearizes hdeduplicated

theorem Linearizes.deduplicated
    (hturns : ∀ command, .command command ∈ turns → command.reads ∨ command = .clear) :
    Deduplicated ((Concurrent.start texts archive).run turns).archive := by
  rw [← hlinearizes.agrees.archive]
  apply Deduplicated.run hdeduplicated
  intro command hcommand
  exact hturns command (mem_turns_of_serialized hcommand)

/-- As long as nothing is cleared, the stores of all texts with one tree answer the same id. -/
theorem Linearizes.same_id (hturns : ∀ command, .command command ∈ turns → command.reads)
    {first last : Nat} {firstText lastText : Text} {firstResult lastResult : Except Fault Nat}
    {tree : Expr} (hfirst : texts[first]? = some firstText) (hlast : texts[last]? = some lastText)
    (hfirstParse : Expr.parse firstText = .ok tree) (hlastParse : Expr.parse lastText = .ok tree)
    (hfirstResult : ((Concurrent.start texts archive).run turns).stores[first]? =
      some (.answered firstResult))
    (hlastResult : ((Concurrent.start texts archive).run turns).stores[last]? =
      some (.answered lastResult)) :
    ∃ id, firstResult = .ok id ∧ lastResult = .ok id := by
  -- In the sequential execution each answer is an entry with the tree, and there is only one such.
  have hrecorded : Recorded texts (serialized texts archive turns order) := by
    apply Recorded.run _ hdeduplicated
    · intro command hcommand
      exact hturns command (mem_turns_of_serialized hcommand)
    · intro index result text tree hresult
      cases hresult
  have hlater := hlinearizes.deduplicated hdeduplicated fun command hcommand =>
    .inl (hturns command hcommand)
  rw [← hlinearizes.agrees.archive] at hlater
  rw [← hlinearizes.agrees.results] at hfirstResult hlastResult
  obtain ⟨entry, hentry, rfl, hsource⟩ :=
    hrecorded first firstResult firstText tree hfirstResult hfirst hfirstParse
  obtain ⟨other, hother, rfl, hotherSource⟩ :=
    hrecorded last lastResult lastText tree hlastResult hlast hlastParse
  obtain rfl := hlater.eq_of_parse_eq hentry hother (hsource.trans hotherSource.symm)
  exact ⟨entry.id, rfl, rfl⟩

end Linearizes

/-- Stores and commands that are interleaved in any way have the answers and the archive of a
sequential execution in the order of the turns that take effect, and a store that has two turns is
answered.  If the other commands only ask and clear, then no canonical text is on record twice; if
they only ask, then the stores of all texts with one tree answer the same id. -/
theorem stores_linearizable (texts : List Text) (turns : List Turn) :
    (∀ archive,
      (∃ order, Linearizes texts archive turns order) ∧
        ∀ index < texts.length, 2 ≤ turns.countP (Turn.isStep index) →
          ∃ result, ((Concurrent.start texts archive).run turns).stores[index]? =
            some (.answered result)) ∧
      ∀ commands position,
        ((∀ command, .command command ∈ turns → command.reads ∨ command = .clear) →
          ((Concurrent.start texts (stateAt commands position)).run turns).archive.Distinct) ∧
        ((∀ command, .command command ∈ turns → command.reads) →
          ∀ (first last : Nat) (firstText lastText : Text) (tree : Expr)
            (firstResult lastResult : Except Fault Nat),
            texts[first]? = some firstText → texts[last]? = some lastText →
            Expr.parse firstText = .ok tree → Expr.parse lastText = .ok tree →
            ((Concurrent.start texts (stateAt commands position)).run turns).stores[first]? =
              some (.answered firstResult) →
            ((Concurrent.start texts (stateAt commands position)).run turns).stores[last]? =
              some (.answered lastResult) →
              ∃ id, firstResult = .ok id ∧ lastResult = .ok id) := by
  refine ⟨?_, ?_⟩
  · intro archive
    refine ⟨⟨_, linearizes_effects texts archive turns⟩, ?_⟩
    intro index hlt hturns
    exact exists_result_of_turns archive hlt hturns
  · intro commands position
    have hlinearizes := linearizes_effects texts (stateAt commands position) turns
    have hdeduplicated := deduplicated_stateAt commands position
    refine ⟨fun hturns => (hlinearizes.deduplicated hdeduplicated hturns).distinct, ?_⟩
    intro hturns first last firstText lastText tree firstResult lastResult hfirst hlast hfirstParse
      hlastParse hfirstResult hlastResult
    exact hlinearizes.same_id hdeduplicated hturns hfirst hlast hfirstParse hlastParse hfirstResult
      hlastResult

def raced : List Text :=
  ["x+y".toList, " (x) + y".toList]

/-- Both stores search before one of them inserts. -/
def race : List Turn :=
  [.step 0, .step 1, .step 1, .command (.findById (some 1)), .step 0]

theorem stores_linearizable_race :
    ∃ id,
      ((Concurrent.start raced .empty).run race).stores[0]? = some (.answered (.ok id)) ∧
      ((Concurrent.start raced .empty).run race).stores[1]? = some (.answered (.ok id)) := by
  have hparse : Expr.parse "x+y".toList =
      .ok (.operator ['+'] (.operand ['x']) (.operand ['y'])) := by decide +kernel
  have hrespelled : Expr.parse " (x) + y".toList =
      .ok (.operator ['+'] (.operand ['x']) (.operand ['y'])) := by decide +kernel
  have hreads : ∀ command, .command command ∈ race → command.reads := by
    intro command hcommand
    obtain rfl : command = .findById (some 1) := by simpa [race] using hcommand
    rfl
  obtain ⟨hall, hruns⟩ := stores_linearizable raced race
  obtain ⟨-, hanswered⟩ := hall .empty
  obtain ⟨first, hfirst⟩ := hanswered 0 (by decide) (by decide)
  obtain ⟨last, hlast⟩ := hanswered 1 (by decide) (by decide)
  obtain ⟨-, hsame⟩ := hruns [] 0
  obtain ⟨id, rfl, rfl⟩ := hsame hreads 0 1 _ _ _ _ _ rfl rfl hparse hrespelled hfirst hlast
  exact ⟨id, hfirst, hlast⟩

end Formulary.Catalogue
