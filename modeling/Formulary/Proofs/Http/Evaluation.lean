import Formulary.Proofs.Catalogue.Deduplication
import Formulary.Proofs.Http.Provenance
import Formulary.Proofs.Http.Target
import Formulary.Proofs.Http.Variables

/-!
# Evaluation over the desk

A request to evaluate a formula is checked before the formula is looked for: as long as one value
cannot be read as a double, the response lists the names of all such values.  Then an id that was
never answered to a store is not found, and an id that was is evaluated like every text that it was
answered for, whichever of them is on record.
-/

namespace Formulary.Http

open Catalogue (Sound outcome)

variable {archive : Archive} {request : Request} {time : Text} {requests : List Request}
variable {values : List (Text × Json)} {bindings : List (Text × Float)} {name : Text}
variable {id position : Nat}

/-! ## The answer -/

/-- A request to evaluate the formula with an id, with some values of variables that are said to be
JSON and are.  Its target names a server, and asks for no connection that stays open. -/
structure AsksValue (request : Request) (id : Nat) (values : List (Text × Json)) : Prop where
  method : request.method = "POST".toList
  path : ∃ part, Route.idOf? part = some id ∧
    request.target.path = "/api/equations/".toList ++ part ++ "/evaluate".toList
  server : request.target.hasBadName = false
  closing : request.target.isSocket = false
  isJson : request.isJson
  body : (Json.readBytes? (Text.toUtf8 (Text.ofOption request.body))).bind
    (Json.field? "variables") = some (.record values)
  nonempty : values ≠ []

/-- A request that is given by its path, with an id in digits of ASCII, has such a target. -/
theorem asksValue_of_ofParts {part : Text} {contentType body : Option Text}
    (hid : Route.idOf? part = some id) (hdigits : ∀ c ∈ part, c.isDigit)
    (hrequest : Request.ofParts "POST".toList
      ("/api/equations/".toList ++ part ++ "/evaluate".toList) contentType body = .ok request)
    (hjson : request.isJson)
    (hbody : (Json.readBytes? (Text.toUtf8 (Text.ofOption request.body))).bind
      (Json.field? "variables") = some (.record values)) (hvalues : values ≠ []) :
    AsksValue request id values := by
  have hserver : (Authority.labelFault? (Authority.splitFirst ':' "localhost".toList).1).isSome =
      false := by decide +kernel
  have hclosing : ["ws", "wss"].contains (String.ofList "http".toList) = false := by decide +kernel
  rw [ofParts_evaluate hdigits] at hrequest
  split at hrequest
  · cases hrequest
  · cases hrequest
    exact ⟨rfl, ⟨part, hid, rfl⟩, hserver, hclosing, hjson, hbody, hvalues⟩

def writtenAt (time : Text) : Except Problem Response → Response
  | .ok response => response
  | .error problem => problem.response time

theorem AsksValue.handle_eq (hasks : AsksValue request id values) (time : Text)
    (archive : Archive) :
    handle Catalogue.store time request archive =
      (writtenAt time (answerEvaluate id request archive), archive) := by
  obtain ⟨part, hid, hpath⟩ := hasks.path
  have hhead : request.isHead = false := by
    rw [Request.isHead, hasks.method]
    decide
  simp only [handle, dispatch, hasks.server, hasks.closing, hasks.method, hpath, find_evaluate hid,
    act, hhead, Bool.false_eq_true, if_false]
  cases answerEvaluate id request archive <;> rfl

theorem AsksValue.readBody_eq (hasks : AsksValue request id values) :
    ∃ fields, readBody request = .ok (.record fields) ∧
      fields.lookup "variables".toList = some (.record values) := by
  obtain ⟨body, hread, hbody⟩ := Option.bind_eq_some_iff.mp hasks.body
  obtain ⟨fields, hrecord, hfields⟩ := Option.bind_eq_some_iff.mp hbody
  obtain rfl := Json.fields?_eq_some_iff.mp hrecord
  refine ⟨fields, ?_, hfields⟩
  rw [readBody, if_pos hasks.isJson, hread]

theorem AsksValue.answer_of_unreadable (hasks : AsksValue request id values)
    (hunreadable : Unreadable values name) (archive : Archive) :
    answerEvaluate id request archive = .error (.invalid (variableIssues values)) := by
  obtain ⟨fields, hbody, hfields⟩ := hasks.readBody_eq
  rw [answerEvaluate, hbody]
  simp only [bind, Except.bind, variablesOf_of_unreadable hfields hunreadable, Except.mapError]

def answerOf : Except Fault Float → Except Problem Response
  | .ok value => .ok ⟨200, .json (.object [("result", Json.ofDouble value)])⟩
  | .error fault => .error (.failed fault)

theorem AsksValue.answer_of_readAs (hasks : AsksValue request id values)
    (hread : ReadAs values bindings) (archive : Archive) :
    answerEvaluate id request archive =
      answerOf
        (Catalogue.evaluate (some id) (some (Environment.ofReals bindings)) archive) := by
  obtain ⟨fields, hbody, hfields⟩ := hasks.readBody_eq
  rw [answerEvaluate, hbody]
  simp only [bind, Except.bind, variablesOf_of_readAs hfields hasks.nonempty hread, Except.mapError]
  cases Catalogue.evaluate (some id) (some (Environment.ofReals bindings)) archive <;> rfl

/-- A response says that values could not be read, and lists their names, each once. -/
structure Response.Rejects (response : Response) (values : List (Text × Json)) : Prop where
  status : response.status = 400
  title : response.title? = some "Validation Failed".toList
  errors : ∃ errors, response.field? "fieldErrors" = some (.record errors) ∧
    (errors.map Prod.fst).Nodup ∧
      ∀ key, key ∈ errors.map Prod.fst ↔
        ∃ name, Unreadable values name ∧ key = "variables.".toList ++ name

structure Response.Misses (response : Response) : Prop where
  status : response.status = 404
  title : response.title? = some "Equation Not Found".toList

structure Response.Lacks (response : Response) (name : Text) : Prop where
  status : response.status = 400
  title : response.title? = some "Missing Variable".toList
  name : response.field? "missingVariable" = some (.string name)

structure Response.Divides (response : Response) : Prop where
  status : response.status = 400
  title : response.title? = some "Arithmetic Error".toList

theorem rejects_variableIssues (values : List (Text × Json)) (time : Text) :
    ((Problem.invalid (variableIssues values)).response time).Rejects values where
  status := rfl
  title := rfl
  errors := by
    refine ⟨Problem.fieldErrors (variableIssues values), rfl, nodup_names_fieldErrors _, ?_⟩
    intro key
    rw [mem_names_fieldErrors_iff]
    constructor
    · rintro ⟨issue, hissue, rfl⟩
      obtain ⟨name, value, cause, hvalue, hcause, rfl⟩ := mem_variableIssues_iff.mp hissue
      exact ⟨name, ⟨value, cause, hvalue, hcause⟩, issueKey_variable name cause⟩
    · rintro ⟨name, ⟨value, cause, hvalue, hcause⟩, rfl⟩
      exact ⟨_, mem_variableIssues_iff.mpr ⟨name, value, cause, hvalue, hcause, rfl⟩,
        (issueKey_variable name cause).symm⟩

/-- A response reports how the evaluation of a text with doubles for its names ends.  A name that it
lacks is the first of the text that has no double. -/
inductive Response.Reports (response : Response) (text : Text) (bindings : List (Text × Float)) :
    Prop
  | value {value : Float}
      (houtcome : outcome text (some (Environment.ofReals bindings)) = .ok value)
      (hresponse : response = ⟨200, .json (.object [("result", Json.ofDouble value)])⟩)
  | lacks {name : Text} {tokens : List Token}
      (houtcome : outcome text (some (Environment.ofReals bindings)) =
        .error (.missingVariable name))
      (hresponse : response.Lacks name) (htokens : Token.ofText text = .ok tokens)
      (hfirst : ((Token.names tokens).find? fun name => (bindings.lookup name).isNone) = some name)
  | divides
      (houtcome : outcome text (some (Environment.ofReals bindings)) = .error .divisionByZero)
      (hresponse : response.Divides)

theorem reports_outcome {text : Text} {tree : Expr} (hparse : Expr.parse text = .ok tree)
    (bindings : List (Text × Float)) (time : Text) :
    (writtenAt time (answerOf (outcome text (some (Environment.ofReals bindings))))).Reports text
      bindings := by
  have hevaluate : outcome text (some (Environment.ofReals bindings)) =
      tree.evaluate (Environment.ofReals bindings) := by
    rw [outcome, hparse]
    rfl
  rw [hevaluate]
  cases houtcome : tree.evaluate (Environment.ofReals bindings) with
  | ok value => exact .value (hevaluate.trans houtcome) rfl
  | error fault =>
      have hwellFormed := Expr.wellFormed_of_parse hparse
      rcases (Expr.ofEnvironment_of_evaluate _ hwellFormed houtcome).of_reals with
        ⟨name, rfl⟩ | rfl
      · obtain ⟨tokens, htokens, hnames⟩ := Expr.names_eq_of_parse hparse
        have hfirst := Expr.find?_names_of_evaluate houtcome
        rw [hnames] at hfirst
        simp only [Environment.ofReals, Option.isNone_map] at hfirst
        exact .lacks (hevaluate.trans houtcome) ⟨rfl, rfl, rfl⟩ htokens hfirst
      · exact .divides (hevaluate.trans houtcome) ⟨rfl, rfl⟩

/-! ## Runs -/

theorem evaluate_of_absent (habsent : ∀ entry ∈ archive.entries, entry.id ≠ id)
    (hsound : Sound archive) (environment : Environment) :
    Catalogue.evaluate (some id) (some environment) archive = .error (.notFound id) := by
  have hfound : archive.findById id = none := by
    rw [Option.eq_none_iff_forall_ne_some]
    intro entry hentry
    obtain ⟨hmem, hid⟩ := hsound.coherent.findById_eq_some_iff.mp hentry
    exact habsent entry hmem (Int.ofNat_inj.mp hid)
  rw [Catalogue.evaluate, hfound]

theorem evaluate_of_storedAt {earlier : Nat} {text : Text}
    (hstored : StoredAt time requests earlier text id) (hlt : earlier < position)
    (environment : Environment) :
    (∃ tree, Expr.parse text = .ok tree) ∧
      Catalogue.evaluate (some id) (some environment) (archiveAt time requests position) =
        outcome text (some environment) := by
  obtain ⟨entry, hentry, rfl, tree, hsource, hparse⟩ := hstored.exists_entry hlt
  refine ⟨⟨tree, hparse⟩, ?_⟩
  rw [Catalogue.evaluate_on_record (sound_archiveAt time requests position) hentry, outcome,
    hsource, outcome, hparse]

def posted (path body : String) : Request where
  method := "POST".toList
  target := ⟨"http".toList, "localhost".toList, path.toList, []⟩
  contentType := some "application/json".toList
  body := some body.toList

def asking : Request :=
  posted "/api/equations/1/evaluate" "\x7b\"variables\": \x7b\"x\": true\x7d\x7d"

/-- A formula, the same formula in another spelling, and a request to evaluate it. -/
def asked : List Request :=
  [posted "/api/equations/store" "\x7b\"equation\": \"(y)/x\"\x7d",
    posted "/api/equations/store" "\x7b\"equation\": \" y / x\"\x7d", asking]

theorem exists_asksValue_asking :
    ∃ values, AsksValue asking 1 values ∧ values.map Prod.fst = ["x".toList] ∧
      variableIssues values = [] := by
  have hread : (((Json.readBytes? (Text.toUtf8 (Text.ofOption asking.body))).bind
      (Json.field? "variables")).bind Json.fields?).map (fun values =>
        (values.map Prod.fst, variableIssues values)) = some (["x".toList], []) := by
    decide +kernel
  obtain ⟨values, hvalues, hpair⟩ := Option.map_eq_some_iff.mp hread
  obtain ⟨hnames, hissues⟩ := Prod.mk.inj hpair
  obtain ⟨json, hjson, hrecord⟩ := Option.bind_eq_some_iff.mp hvalues
  obtain rfl := Json.fields?_eq_some_iff.mp hrecord
  have hdigits : ∀ c ∈ "1".toList, c.isDigit := List.all_eq_true.mp (by decide)
  have hrequest : Request.ofParts "POST".toList
      ("/api/equations/".toList ++ "1".toList ++ "/evaluate".toList) asking.contentType
      asking.body = .ok asking := by
    rw [ofParts_evaluate hdigits]
    rfl
  have hasks : AsksValue asking 1 values := by
    apply asksValue_of_ofParts (by decide +kernel) hdigits hrequest (by decide +kernel) hjson
    rintro rfl
    cases hnames
  exact ⟨values, hasks, hnames, hissues⟩

theorem storedAt_asked : StoredAt [] asked 1 " y / x".toList 1 where
  brought := by decide +kernel
  answered := by decide +kernel

end Formulary.Http
