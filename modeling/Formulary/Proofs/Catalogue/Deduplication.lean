import Formulary.Proofs.Catalogue

/-!
# Deduplication does not change values

A text may be stored under an id that another spelling of the same formula was given before.
Whoever evaluates under the id still gets the value of the text, or the fault that its evaluation
ends in, until the catalogue is cleared.
-/

namespace Formulary.Catalogue

variable {archive : Archive} {commands : List Command} {text : Text} {id : Nat}

def Reply.ofOutcome : Except Fault Float → Reply
  | .ok result => .value result
  | .error fault => .failed fault

def outcome (text : Text) (environment : Option Environment) : Except Fault Float :=
  Expr.parse text >>= fun tree => Expr.evaluate? environment (some tree)

/-- The evaluation under the id of an entry ends like that of its source text. -/
theorem evaluate_on_record (hsound : Sound archive) {entry : Entry}
    (hentry : entry ∈ archive.entries) (environment : Option Environment) :
    evaluate (some entry.id) environment archive = outcome entry.source environment := by
  have hfound := hsound.coherent.findById_eq_some_iff.mpr ⟨hentry, rfl⟩
  obtain ⟨-, tree, htree, -⟩ := Submission.exists_tree_of_ofText (hsound.faithful entry hentry)
  cases environment with
  | none =>
      rw [outcome, htree]
      rfl
  | some environment =>
      rw [evaluate, hfound]
      rfl

theorem perform_evaluate (id : Option Int) (environment : Option Environment) (archive : Archive) :
    (perform (.evaluate id environment) archive).1 =
      .ofOutcome (evaluate id environment archive) := by
  cases houtcome : evaluate id environment archive <;>
    simp only [perform, houtcome, Reply.ofOutcome]

theorem error_of_ofOutcome {result : Except Fault Float} {fault : Fault}
    (hreply : Reply.ofOutcome result = .failed fault) : result = .error fault := by
  cases result with
  | ok value => cases hreply
  | error cause =>
      cases hreply
      rfl

/-- No evaluation of a text that is read ends in a fault of reading or searching. -/
theorem ofData_of_outcome {tree : Expr} (hparse : Expr.parse text = .ok tree)
    {environment : Option Environment} {fault : Fault}
    (hfault : outcome text environment = .error fault) :
    fault.OfData ∨ fault = .badArgument .noEnvironment := by
  rw [outcome, hparse] at hfault
  cases environment with
  | none =>
      cases hfault
      exact .inr rfl
  | some environment =>
      exact .inl (Expr.ofData_of_evaluate environment (Expr.wellFormed_of_parse hparse) hfault)

/-! ## From a store to an evaluation -/

theorem evaluate_not_cleared {first last : Nat} {environment : Option Environment}
    (horder : first < last) (hstored : commands[first]? = some (.store (some text)))
    (hreply : (replies commands)[first]? = some (.id id))
    (hevaluated : commands[last]? = some (.evaluate (some id) environment))
    (hclear : ∀ between, first < between → between < last → commands[between]? ≠ some .clear) :
    (replies commands)[last]? = some (.ofOutcome (outcome text environment)) := by
  obtain ⟨entry, hentry, rfl, tree, hsource, htext⟩ := exists_entry_of_reply hstored hreply
  have hkept := (grows_stateAt horder hclear).kept.subset hentry
  have hsound := sound_stateAt commands last
  calc (replies commands)[last]?
    _ = some (.ofOutcome (evaluate (some entry.id) environment (stateAt commands last))) := by
      rw [Run.getElem?_replies hevaluated, perform_evaluate]
    _ = some (.ofOutcome (outcome entry.source environment)) := by
      rw [evaluate_on_record hsound hkept]
    _ = some (.ofOutcome (outcome text environment)) := by
      rw [outcome, hsource, ← htext, ← outcome, Text.ofOption, Option.getD_some]

theorem evaluate_cleared {first between last : Nat} {environment : Environment}
    (hstored : commands[first]? = some (.store (some text)))
    (hreply : (replies commands)[first]? = some (.id id))
    (hafter : first < between) (hcleared : commands[between]? = some .clear)
    (hbefore : between < last)
    (hevaluated : commands[last]? = some (.evaluate (some id) (some environment))) :
    (replies commands)[last]? = some (.failed (.notFound id)) := by
  obtain ⟨entry, hentry, rfl, -⟩ := exists_entry_of_reply hstored hreply
  have hissued := (sound_stateAt commands (first + 1)).coherent.issued entry hentry
  have hused : entry.id < (stateAt commands between).nextId :=
    Nat.lt_of_lt_of_le hissued.2 (follows_stateAt hafter).counted
  have hretired : (stateAt commands (between + 1)).Retired entry.id := by
    rw [stateAt, Run.stateAt_succ hcleared]
    exact Archive.retired_clear hused
  have hretiredLast := (follows_stateAt hbefore).retired hretired
  have hgone := hretiredLast.findById (sound_stateAt commands last).coherent
  rw [Run.getElem?_replies hevaluated, perform_evaluate, evaluate, hgone]
  rfl

/-- Whatever happens between a store and an evaluation under the id that was answered: if nothing
was cleared, the evaluation ends like that of the stored text, and if the catalogue was cleared, the
id is not found. -/
theorem evaluate_stored {commands : List Command} {first last : Nat} {text : Text} {id : Nat}
    {environment : Option Environment} (horder : first < last)
    (hstored : commands[first]? = some (.store (some text)))
    (hreply : (replies commands)[first]? = some (.id id))
    (hevaluated : commands[last]? = some (.evaluate (some id) environment)) :
    ((∀ between, first < between → between < last → commands[between]? ≠ some .clear) →
      (replies commands)[last]? = some (.ofOutcome (outcome text environment)) ∧
        (∀ cause, (replies commands)[last]? ≠ some (.failed (.malformed cause))) ∧
          ∀ other, (replies commands)[last]? ≠ some (.failed (.notFound other))) ∧
      ((∃ between, first < between ∧ between < last ∧ commands[between]? = some .clear) →
        environment.isSome → (replies commands)[last]? = some (.failed (.notFound id))) := by
  constructor
  · intro hclear
    obtain ⟨-, -, -, tree, -, htext⟩ := exists_entry_of_reply hstored hreply
    have houtcome := evaluate_not_cleared horder hstored hreply hevaluated hclear
    have hfault : ∀ fault, (replies commands)[last]? = some (.failed fault) →
        fault.OfData ∨ fault = .badArgument .noEnvironment := by
      intro fault hfailed
      rw [houtcome, Option.some.injEq] at hfailed
      exact ofData_of_outcome htext (error_of_ofOutcome hfailed)
    refine ⟨houtcome, ?_, ?_⟩
    · intro cause hfailed
      rcases hfault _ hfailed with hdata | hargument
      · cases hdata
      · cases hargument
    · intro other hfailed
      rcases hfault _ hfailed with hdata | hargument
      · cases hdata
      · cases hargument
  · rintro ⟨between, hafter, hbefore, hcleared⟩ hsome
    obtain ⟨environment, rfl⟩ := Option.isSome_iff_exists.mp hsome
    exact evaluate_cleared hstored hreply hafter hcleared hbefore hevaluated

/-- One formula in two spellings, evaluated before and after everything is cleared. -/
def respelled : List Command :=
  [.store (some "y+x*2".toList), .store (some " y + (x*2)".toList),
    .evaluate (some 1) (some fun _ => none), .clear, .store (some "y".toList),
    .evaluate (some 1) (some fun _ => none)]

theorem evaluate_stored_respelled :
    (replies respelled)[1]? = some (.id 1) ∧
      (replies respelled)[2]? = some (.failed (.missingVariable ['y'])) ∧
      (replies respelled)[5]? = some (.failed (.notFound 1)) := by
  have hreply : (replies respelled)[1]? = some (.id 1) := by
    have hstore : (store " y + (x*2)".toList (stateAt respelled 1)).1 = .ok 1 := by decide +kernel
    rw [Run.getElem?_replies rfl]
    exact congrArg some (perform_store_eq_id_iff.mpr hstore)
  have houtcome : outcome " y + (x*2)".toList (some fun _ => none) =
      .error (.missingVariable ['y']) := by
    have hparse : Expr.parse " y + (x*2)".toList = .ok (.operator ['+'] (.operand ['y'])
        (.operator ['*'] (.operand ['x']) (.operand ['2']))) := by decide +kernel
    have hunbound : evaluateSymbol (fun _ => none) ['y'] = .error (.missingVariable ['y']) := rfl
    rw [outcome, hparse]
    change Expr.evaluate _ _ = _
    rw [Expr.evaluate_operator, Expr.evaluate_operand, hunbound]
    rfl
  refine ⟨hreply, ?_, ?_⟩
  · have hlater := (evaluate_stored (by decide : 1 < 2) rfl hreply rfl).1 (by omega)
    rw [hlater.1, houtcome]
    rfl
  · exact (evaluate_stored (by decide : 1 < 5) rfl hreply rfl).2 ⟨3, by decide, by decide, rfl⟩ rfl

end Formulary.Catalogue
