import Formulary.CommandLine.Report
import Formulary.Proofs.Catalogue.Deduplication
import Formulary.Proofs.Fields
import Formulary.Proofs.Malformed
import Formulary.Proofs.Walk.Order

/-!
# The report agrees with the catalogue

The command that reports on a formula reads it as it is given.  The catalogue trims the text, may
know the formula from another spelling, and reads the recorded text anew before it evaluates.  Since
a text and its trimmed form are cut into the same tokens, and since the catalogue answers an id only
for the tree of the text, both end in the same value or in the same fault.  A value is reported,
unless the report has to describe a tree that is too high to be written.
-/

namespace Formulary

/-! ## Storing and evaluating -/

namespace Catalogue

variable {archive : Archive} {text : Text}

/-- Store a text and evaluate under the id that is answered. -/
def storeAndEvaluate (text : Text) (environment : Environment) (archive : Archive) :
    Except Fault Float :=
  match store text archive with
  | (.ok id, later) => evaluate (some id) (some environment) later
  | (.error fault, _) => .error fault

theorem store_of_parse_fault (hsolid : text.allBlank = false) {fault : Fault}
    (hparse : Expr.parse text = .error fault) : store text archive = (.error fault, archive) := by
  have hcanonical := Submission.canonical_ofText hsolid
  rw [hparse] at hcanonical
  cases hsubmission : Submission.ofText text with
  | ok submission =>
      rw [hsubmission] at hcanonical
      cases hcanonical
  | error cause =>
      rw [hsubmission] at hcanonical
      cases hcanonical
      exact store_of_fault hsubmission

/-- Under the id that a text is stored under, the text itself is evaluated, whatever the catalogue
had on record before. -/
theorem evaluate_of_store (hsound : Sound archive) {id : Nat}
    (hstore : (store text archive).1 = .ok id) (environment : Option Environment) :
    evaluate (some id) environment (store text archive).2 = outcome text environment := by
  obtain ⟨entry, hentry, rfl, tree, hsource, htext⟩ := exists_entry_of_store hsound hstore
  rw [evaluate_on_record (hsound.store text) hentry, outcome, outcome, hsource, htext]

theorem storeAndEvaluate_eq (hsound : Sound archive) (hsolid : text.allBlank = false)
    (environment : Environment) :
    storeAndEvaluate text environment archive = outcome text (some environment) := by
  unfold storeAndEvaluate
  cases hparse : Expr.parse text with
  | error fault =>
      rw [store_of_parse_fault hsolid hparse, outcome, hparse]
      rfl
  | ok tree =>
      obtain ⟨id, hstore⟩ := exists_id_of_store hsound hparse
      rw [← evaluate_of_store hsound hstore (some environment)]
      generalize store text archive = answer at hstore ⊢
      obtain ⟨result, later⟩ := answer
      obtain rfl : result = .ok id := hstore
      rfl

end Catalogue

/-! ## Reporting -/

namespace CommandLine.Report

open Catalogue (outcome storeAndEvaluate)

variable {parts : Parts} {items : List Text} {bindings : List (Text × Float)} {formula : Text}

theorem make_of_fault {fault : Fault} (hparse : Expr.parse formula = .error fault) :
    make parts bindings formula = .error fault := by
  unfold make
  rcases bind_eq_error_iff.mp hparse with htokens | ⟨tokens, htokens, hrest⟩
  · rw [htokens]
    rfl
  · rw [htokens]
    rcases bind_eq_error_iff.mp hrest with hlisting | ⟨listing, hlisting, htree⟩
    · simp only [hlisting, bind, Except.bind]
    · simp only [hlisting, htree, bind, Except.bind]

theorem result_make_of_parse (hresult : parts.result) {tree : Expr}
    (hparse : Expr.parse formula = .ok tree) :
    result <$> make parts bindings formula =
      (fun value => some (Json.ofDouble value)) <$>
        tree.evaluate (Environment.ofReals bindings) := by
  obtain ⟨tokens, htokens, hrest⟩ := bind_eq_ok_iff.mp hparse
  obtain ⟨listing, hlisting, htree⟩ := bind_eq_ok_iff.mp hrest
  unfold make
  simp only [htokens, hlisting, htree, hresult, bind, Except.bind, if_true]
  cases tree.evaluate (Environment.ofReals bindings) <;> rfl

/-- A report is made exactly if its formula has a value, which it shows whatever else it shows. -/
theorem result_make (hresult : parts.result) (bindings : List (Text × Float)) (formula : Text) :
    result <$> make parts bindings formula =
      (fun value => some (Json.ofDouble value)) <$>
        outcome formula (some (Environment.ofReals bindings)) := by
  rw [outcome]
  cases hparse : Expr.parse formula with
  | error fault =>
      rw [make_of_fault hparse]
      rfl
  | ok tree => exact result_make_of_parse hresult hparse

/-- The report of a formula shows its tree and the arranged tokens that list it. -/
theorem views_of_make {report : Report} (hmake : make parts bindings formula = .ok report) :
    ∃ listing tree, Expr.parse formula = .ok tree ∧ Expr.Listed tree listing ∧
      report.variableNames = tree.variableNames ∧ report.depth = tree.depth ∧
      report.listing = (if parts.listing then some (listing.map Token.text) else none) ∧
      report.canonical = (if parts.canonical then some tree.canonical else none) ∧
      report.tree = (if parts.tree then some tree.describe else none) := by
  simp only [make, bind_eq_ok_iff] at hmake
  obtain ⟨tokens, htokens, listing, hlisting, tree, htree, hrest⟩ := hmake
  have hlisted := Expr.ofListing_eq_ok_iff.mp htree
  have hread := Expr.ofTokens_eq_ok_iff.mpr ⟨listing, hlisting, hlisted⟩
  refine ⟨listing, tree, Expr.parse_eq_ok_iff.mpr ⟨tokens, htokens, hread⟩, hlisted, ?_⟩
  -- The views are the same whether the formula is evaluated or not.
  split at hrest
  · split at hrest
    · cases hrest
      exact ⟨rfl, rfl, rfl, rfl, rfl⟩
    · cases hrest
  · cases hrest
    exact ⟨rfl, rfl, rfl, rfl, rfl⟩

theorem lookup_optionalField (name : String) (value : Option Json) :
    (optionalField name value).lookup name = value := by
  cases value <;> simp [optionalField]

theorem lookup_optionalField_of_ne {name other : String} (hdiffer : name ≠ other)
    (value : Option Json) : (optionalField other value).lookup name = none := by
  cases value <;> simp [optionalField, List.lookup_cons, beq_eq_false_iff_ne.mpr hdiffer]

theorem field?_result_toJson (report : Report) : report.toJson.field? "result" = report.result := by
  simp [toJson, Json.field?_object, List.lookup_append, List.lookup_cons, lookup_optionalField,
    lookup_optionalField_of_ne]

/-! ## Nesting -/

theorem fieldsNesting_append (fields others : List (Text × Json)) :
    Json.fieldsNesting (fields ++ others) =
      max (Json.fieldsNesting fields) (Json.fieldsNesting others) := by
  induction fields with
  | nil => simp [Json.fieldsNesting]
  | cons field rest ih =>
      rw [List.cons_append, Json.fieldsNesting, Json.fieldsNesting, ih, Nat.max_assoc]

theorem nesting_ofTexts (texts : List Text) : (Json.ofTexts texts).nesting = 1 := by
  have hitems : Json.itemsNesting (texts.map Json.string) = 0 := by
    induction texts with
    | nil => rfl
    | cons text rest ih => simp [Json.itemsNesting, Json.nesting, ih]
  rw [Json.ofTexts, Json.nesting, hitems]

theorem nesting_ofDouble (x : Float) : (Json.ofDouble x).nesting = 0 := by
  unfold Json.ofDouble
  split <;> simp [Json.ofString, Json.nesting]

/-- The description of a tree has a record for each node on the way down. -/
theorem nesting_description (tree : Expr) : tree.description.nesting = tree.height := by
  induction tree with
  | operand symbol =>
      simp [Expr.description, Expr.describeLeaf, Json.object, Json.ofString, Json.nesting,
        Json.fieldsNesting, Expr.height]
  | operator sign left right ihleft ihright =>
      simp [Expr.description, Expr.describeNode, Json.object, Json.ofString, Json.nesting,
        Json.fieldsNesting, Expr.height, ihleft, ihright, Nat.add_comm]

/-- What a part of a report adds to the nesting of the fields. -/
def optionalNesting (value : Option Json) : Nat :=
  value.elim 0 Json.nesting

theorem fieldsNesting_optionalField (name : String) (value : Option Json) :
    Json.fieldsNesting ((optionalField name value).map fun field => (field.1.toList, field.2)) =
      optionalNesting value := by
  cases value <;> simp [optionalField, optionalNesting, Json.fieldsNesting]

theorem nesting_toJson (report : Report) :
    report.toJson.nesting =
      max 1 (max (optionalNesting report.tree) (optionalNesting report.result)) + 1 := by
  have hlisting : optionalNesting (report.listing.map Json.ofTexts) ≤ 1 := by
    cases report.listing <;> simp [optionalNesting, nesting_ofTexts]
  have hcanonical : optionalNesting (report.canonical.map Json.string) = 0 := by
    cases report.canonical <;> simp [optionalNesting, Json.nesting]
  simp only [toJson, Json.object, Json.nesting, List.map_append, fieldsNesting_append,
    fieldsNesting_optionalField, List.map_cons, List.map_nil, Json.fieldsNesting, nesting_ofTexts,
    hcanonical]
  omega

theorem nesting_result_of_make {report : Report}
    (hmake : make parts bindings formula = .ok report) : optionalNesting report.result = 0 := by
  simp only [make, bind_eq_ok_iff] at hmake
  obtain ⟨_, _, _, _, _, _, hrest⟩ := hmake
  split at hrest
  · split at hrest
    · cases hrest
      exact nesting_ofDouble _
    · cases hrest
  · cases hrest
    rfl

/-! ## Command lines -/

/-- A command line that asks for the value of a formula with some bindings, and perhaps for other
views of its tree. -/
structure Asks (line : List Text) (formula : Text) (bindings : List (Text × Float)) : Prop where
  parsed : ∃ arguments, Spec.parse specs line = .ok arguments ∧ arguments.has .help = false ∧
    arguments.has .parseOnly = false ∧ arguments.positional = [formula] ∧
    readBindings (arguments.valuesOf .binding) = .ok bindings

def AsksTree (line : List Text) : Prop :=
  ∃ arguments, Spec.parse specs line = .ok arguments ∧ arguments.has .showTree

/-- The tree of a formula, if it has one, can be described where there is so much room. -/
def Describable (room : Nat) (formula : Text) : Prop :=
  ∀ tree, Expr.parse formula = .ok tree → tree.height < room

/-- What a command line asks for can be written. -/
def HasRoom (room : Nat) (line : List Text) (formula : Text) : Prop :=
  AsksTree line → Describable room formula

variable {line : List Text} {room : Nat}

theorem Asks.exists_run (hasks : Asks line formula bindings) (room : Nat) :
    ∃ parts items, commandWithin room line = run room parts items formula ∧ parts.result ∧
      (parts.tree ↔ AsksTree line) ∧ readBindings items = .ok bindings := by
  obtain ⟨arguments, hparse, hhelp, hparseOnly, hpositional, hitems⟩ := hasks.parsed
  refine ⟨partsOf arguments, arguments.valuesOf .binding, ?_, ?_, ?_, hitems⟩
  · unfold commandWithin
    simp only [hparse, hhelp, hpositional, Bool.false_eq_true, if_false]
  · simp only [partsOf, hparseOnly, Bool.not_false]
  · simp [AsksTree, partsOf, hparse]

theorem run_of_fault (hitems : readBindings items = .ok bindings) (hresult : parts.result)
    {fault : Fault}
    (hfault : outcome formula (some (Environment.ofReals bindings)) = .error fault) :
    run room parts items formula = .failed fault := by
  have hshown := result_make hresult bindings formula
  rw [hfault] at hshown
  simp only [run, hitems, map_eq_error_iff.mp hshown]

/-- A report has a level more than the description in it. -/
theorem nesting_le_iff (hroom : 2 ≤ room) {report : Report}
    (hmake : make parts bindings formula = .ok report) :
    report.toJson.nesting ≤ room ↔ (parts.tree → Describable room formula) := by
  obtain ⟨-, tree, hparse, -, -, -, -, -, htree⟩ := views_of_make hmake
  rw [nesting_toJson, nesting_result_of_make hmake, htree, Describable, hparse]
  by_cases hasked : parts.tree = true
  · simp only [hasked, if_true, optionalNesting, Option.elim_some, Expr.describe_eq_description,
      nesting_description, Except.ok.injEq, forall_eq', forall_const]
    omega
  · simp only [hasked, if_false, optionalNesting, Option.elim_none, Bool.false_eq_true,
      false_implies, iff_true]
    omega

theorem run_of_value (hroom : 2 ≤ room) (hitems : readBindings items = .ok bindings)
    (hresult : parts.result) {value : Float}
    (hvalue : outcome formula (some (Environment.ofReals bindings)) = .ok value) :
    ∃ report, report.result = some (Json.ofDouble value) ∧
      (run room parts items formula = .printed report ∧ (parts.tree → Describable room formula) ∨
        run room parts items formula = .overrun report ∧
          ¬ (parts.tree → Describable room formula)) := by
  have hshown := result_make hresult bindings formula
  rw [hvalue] at hshown
  obtain ⟨report, hmake, hreport⟩ := map_eq_ok_iff.mp hshown
  refine ⟨report, hreport, ?_⟩
  rw [← nesting_le_iff hroom hmake]
  simp only [run, hitems, hmake, print]
  by_cases hfits : report.toJson.nesting ≤ room <;> simp [hfits]

/-! ## Agreement -/

/-- The command succeeds and prints the JSON text of a report that has a result. -/
structure Outcome.Reports (ending : Outcome) (result : Json) : Prop where
  exitCode : ending.exitCode = 0
  log : ending.log = []
  printed : ∃ report, ending = .printed report ∧
    ending.output = Json.write report.toJson ++ ['\n'] ∧
    report.toJson.field? "result" = some result

/-- The command fails, prints nothing and logs the code and the message of its fault. -/
structure Outcome.Logs (ending : Outcome) (code message : String) : Prop where
  exitCode : ending.exitCode = 1
  output : ending.output = []
  log : ending.log = ["ERROR eval_expr failed code=" ++ code ++ " message=" ++ message]
  fault : ∃ fault, ending = .failed fault ∧ fault.code? = some code ∧ fault.message = message

/-- The command fails and says nothing, neither in print nor in the log. -/
structure Outcome.Mute (ending : Outcome) : Prop where
  exitCode : ending.exitCode = 1
  output : ending.output = []
  log : ending.log = []

theorem Outcome.reports_printed_iff {report : Report} {result : Json} :
    (Outcome.printed report).Reports result ↔ report.result = some result := by
  constructor
  · rintro ⟨-, -, other, hprinted, -, hresult⟩
    cases hprinted
    rwa [field?_result_toJson] at hresult
  · intro hresult
    exact ⟨rfl, rfl, report, rfl, rfl, by rwa [field?_result_toJson]⟩

theorem Outcome.logs_failed_iff {fault : Fault} {code message : String} :
    (Outcome.failed fault).Logs code message ↔
      fault.code? = some code ∧ fault.message = message := by
  constructor
  · rintro ⟨-, -, -, other, hfailed, hcode, hmessage⟩
    cases hfailed
    exact ⟨hcode, hmessage⟩
  · rintro ⟨hcode, rfl⟩
    exact ⟨rfl, rfl, by simp only [log, hcode], fault, rfl, hcode, rfl⟩

theorem Outcome.mute_overrun (report : Report) : (Outcome.overrun report).Mute :=
  ⟨rfl, rfl, rfl⟩

theorem Outcome.Reports.not_mute {ending : Outcome} {result : Json}
    (hreports : ending.Reports result) : ¬ ending.Mute := by
  intro hmute
  have hexit := hreports.exitCode
  rw [hmute.exitCode] at hexit
  cases hexit

theorem Outcome.Logs.not_mute {ending : Outcome} {code message : String}
    (hlogs : ending.Logs code message) : ¬ ending.Mute := by
  intro hmute
  have hlog := hlogs.log
  rw [hmute.log] at hlog
  cases hlog

theorem Outcome.Reports.not_logs {ending : Outcome} {result : Json} {code message : String}
    (hreports : ending.Reports result) : ¬ ending.Logs code message := by
  intro hlogs
  have hexit := hreports.exitCode
  rw [hlogs.exitCode] at hexit
  cases hexit

/-- Every fault that a formula and doubles for its names can end in has a code. -/
theorem exists_code_of_outcome {fault : Fault}
    (hfault : outcome formula (some (Environment.ofReals bindings)) = .error fault) :
    ∃ code, fault.code? = some code := by
  rcases bind_eq_error_iff.mp hfault with hparse | ⟨tree, hparse, hevaluate⟩
  · obtain ⟨cause, rfl⟩ := Expr.isMalformed_of_parse hparse
    exact ⟨_, rfl⟩
  · have hwellFormed := Expr.wellFormed_of_parse hparse
    rcases (Expr.ofEnvironment_of_evaluate _ hwellFormed hevaluate).of_reals with ⟨name, rfl⟩ | rfl
    · exact ⟨_, rfl⟩
    · exact ⟨_, rfl⟩

/-- Two spellings of one formula. -/
def respelled : List Catalogue.Command :=
  [.store (some "x+(y*2)".toList), .store (some "((x))+ y*2".toList)]

end CommandLine.Report

end Formulary
