import Formulary.Http.Desk
import Formulary.Proofs.Catalogue
import Formulary.Proofs.Malformed

/-!
# No request breaks the desk

The desk hands the catalogue only texts that are not blank and environments of doubles, and every
entry of the catalogue can be read.  So whatever goes wrong with a request is the client's fault,
and no fault of the catalogue's own ever shows.  Only a store that succeeds touches the catalogue.
-/

namespace Formulary.Http

open Catalogue (Sound)

variable {archive : Archive} {request : Request} {problem : Problem} {time : Text}

/-! ## Fit responses -/

/-- The problems that a client can be told to mend. -/
inductive Problem.OfClient : Problem → Prop
  | unknownPath : OfClient .unknownPath
  | unknownMethod : OfClient .unknownMethod
  | misdirected : OfClient .misdirected
  | unsupportedType (contentType : Text) : OfClient (.unsupportedType contentType)
  | malformedBody : OfClient .malformedBody
  | invalid (issues : List Issue) : OfClient (.invalid issues)
  | malformed (cause : SyntaxFault) : OfClient (.failed (.malformed cause))
  | missingVariable (name : Text) : OfClient (.failed (.missingVariable name))
  | divisionByZero : OfClient (.failed .divisionByZero)
  | notFound (id : Int) : OfClient (.failed (.notFound id))

theorem Problem.OfClient.status_ne (hproblem : problem.OfClient) : problem.status ≠ 500 := by
  cases hproblem <;> simp [Problem.status]

theorem Problem.OfClient.title_ne (hproblem : problem.OfClient) :
    problem.title ≠ "Internal Server Error" ∧ problem.title ≠ "Invalid Argument" := by
  cases hproblem <;> simp [Problem.title]

def Response.title? (response : Response) : Option Text :=
  match response.body with
  | .json (.record fields) =>
    match fields.lookup "error".toList with
    | some (.string title) => some title
    | _ => none
  | _ => none

theorem Problem.title?_response (problem : Problem) (time : Text) :
    (problem.response time).title? = some problem.title.toList := rfl

theorem title?_object {status : Nat} {name : String} {value : Json} (hname : name ≠ "error") :
    Response.title? ⟨status, .json (.object [(name, value)])⟩ = none := by
  have hother : ("error".toList == name.toList) = false := by
    rw [beq_eq_false_iff_ne, Ne, String.toList_inj]
    exact hname.symm
  simp only [Response.title?, Json.object, List.map_cons, List.map_nil, List.lookup_cons,
    List.lookup_nil, hother]

/-- A response that is fit for clients: nothing inside failed, and no check was reached that stands
behind those of the desk. -/
structure Response.Fit (response : Response) : Prop where
  status : response.status ≠ 500
  internal : response.title? ≠ some "Internal Server Error".toList
  argument : response.title? ≠ some "Invalid Argument".toList

theorem Response.Fit.of_untitled {response : Response} (hstatus : response.status ≠ 500)
    (htitle : response.title? = none) : response.Fit where
  status := hstatus
  internal := by simp [htitle]
  argument := by simp [htitle]

theorem Problem.OfClient.fit (hproblem : problem.OfClient) (time : Text) :
    (problem.response time).Fit where
  status := hproblem.status_ne
  internal := by
    rw [Problem.title?_response, Ne, Option.some.injEq, String.toList_inj]
    exact hproblem.title_ne.1
  argument := by
    rw [Problem.title?_response, Ne, Option.some.injEq, String.toList_inj]
    exact hproblem.title_ne.2

theorem Response.status_sent (response : Response) (isHead : Bool) :
    (if isHead then { response with body := .empty } else response).status = response.status := by
  split <;> rfl

/-- A response stays fit if its body is left out because only its head is asked for. -/
theorem Response.Fit.sent {response : Response} (hfit : response.Fit) (isHead : Bool) :
    Response.Fit (if isHead then { response with body := .empty } else response) := by
  split
  · exact .of_untitled hfit.status rfl
  · exact hfit

/-! ## What is handed to the catalogue -/

theorem ofClient_of_readBody (hbody : readBody request = .error problem) : problem.OfClient := by
  unfold readBody at hbody
  split at hbody
  · split at hbody
    · cases hbody
      exact .malformedBody
    · cases hbody
      exact .malformedBody
    · cases hbody
  · cases hbody
    exact .unsupportedType _

/-- A body brings no blank text. -/
theorem allBlank_of_formulaOf {body : Json} {text : Text} (hformula : formulaOf body = .ok text) :
    text.allBlank = false := by
  unfold formulaOf at hformula
  simp only [bind_eq_ok_iff] at hformula
  obtain ⟨fields, -, value, -, htext⟩ := hformula
  split at htext
  · split at htext
    · cases htext
    next hsolid =>
        cases htext
        simpa using hsolid
  · cases htext

/-! ## Answers -/

/-- How a request may be answered: from what is on record, with a store, or with a problem that
leaves the record alone. -/
inductive Answer (archive : Archive) : Except Problem Response → Archive → Prop
  | shown {response : Response} (hfit : response.Fit) : Answer archive (.ok response) archive
  | stored {id : Nat} {later : Archive} (hsound : Sound later) :
      Answer archive (.ok ⟨201, .json (.object [("id", .integer id)])⟩) later
  | declined {problem : Problem} (hproblem : problem.OfClient) :
      Answer archive (.error problem) archive

theorem Answer.sound {result : Except Problem Response} {later : Archive}
    (hanswer : Answer archive result later) (hsound : Sound archive) : Sound later := by
  cases hanswer with
  | shown => exact hsound
  | stored hlater => exact hlater
  | declined => exact hsound

theorem answer_answerStore (hsound : Sound archive) (request : Request) :
    Answer archive (answerStore Catalogue.store request archive).1
      (answerStore Catalogue.store request archive).2 := by
  unfold answerStore
  split
  next problem hfailed =>
      apply Answer.declined
      rcases bind_eq_error_iff.mp hfailed with hbody | ⟨body, -, hformula⟩
      · exact ofClient_of_readBody hbody
      · obtain ⟨issues, -, rfl⟩ := mapError_eq_error_iff.mp hformula
        exact .invalid issues
  next text hread =>
      obtain ⟨body, -, hformula⟩ := bind_eq_ok_iff.mp hread
      have hsolid := allBlank_of_formulaOf (mapError_eq_ok_iff.mp hformula)
      split
      next id later hstored =>
          have hlater := hsound.store text
          rw [hstored] at hlater
          exact .stored hlater
      next fault later hstored =>
          have hend := Catalogue.storeEnd hsound text
          rw [hstored] at hend
          cases hend with
          | refused hfault =>
              obtain ⟨cause, rfl⟩ := Submission.isMalformed_of_ofText hsolid hfault
              exact .declined (.malformed cause)

theorem ofClient_of_answerEvaluate (hsound : Sound archive) {id : Nat}
    (hanswer : answerEvaluate id request archive = .error problem) : problem.OfClient := by
  rcases bind_eq_error_iff.mp hanswer with hbody | ⟨body, -, hvalues⟩
  · exact ofClient_of_readBody hbody
  rcases bind_eq_error_iff.mp hvalues with hinvalid | ⟨values, -, hresult⟩
  · obtain ⟨issues, -, rfl⟩ := mapError_eq_error_iff.mp hinvalid
    exact .invalid issues
  rcases bind_eq_error_iff.mp hresult with hfailed | ⟨result, -, hresponse⟩
  · obtain ⟨fault, hfault, rfl⟩ := mapError_eq_error_iff.mp hfailed
    rcases Catalogue.evaluate_fault hsound hfault with rfl | henvironment
    · exact .notFound _
    · rcases henvironment.of_reals with ⟨name, rfl⟩ | rfl
      · exact .missingVariable name
      · exact .divisionByZero
  · cases hresponse

theorem answer_answerEvaluate (hsound : Sound archive) (id : Nat) (request : Request) :
    Answer archive (answerEvaluate id request archive) archive := by
  cases hanswer : answerEvaluate id request archive with
  | error problem => exact .declined (ofClient_of_answerEvaluate hsound hanswer)
  | ok response =>
      simp only [answerEvaluate, bind_eq_ok_iff] at hanswer
      obtain ⟨_, -, _, -, _, -, hresponse⟩ := hanswer
      cases hresponse
      exact .shown (.of_untitled (by simp) (title?_object (by decide)))

theorem answer_act (hsound : Sound archive) (route : Route) (action : Action) (request : Request) :
    Answer archive (act Catalogue.store route action request archive).1
      (act Catalogue.store route action request archive).2 := by
  unfold act
  split
  · exact .shown (.of_untitled (by simp) rfl)
  · exact answer_answerStore hsound request
  · exact answer_answerEvaluate hsound _ request
  · exact .shown (.of_untitled (by simp) rfl)
  · exact .shown (.of_untitled (by simp) rfl)
  · exact .declined .unknownPath

theorem answer_dispatch (hsound : Sound archive) (request : Request) :
    Answer archive (dispatch Catalogue.store request archive).1
      (dispatch Catalogue.store request archive).2 := by
  unfold dispatch
  dsimp only
  split
  · exact .declined .misdirected
  · split
    · exact .declined .unknownPath
    · exact .declined .unknownMethod
    · split
      · exact .declined .misdirected
      · exact .shown (.of_untitled (by simp) rfl)
    · split
      · exact .declined .misdirected
      · exact answer_act hsound _ _ request

theorem fit_handle (hsound : Sound archive) (time : Text) (request : Request) :
    (handle Catalogue.store time request archive).1.Fit ∧
      ((handle Catalogue.store time request archive).1.status ≠ 201 →
        (handle Catalogue.store time request archive).2 = archive) := by
  have hanswer := answer_dispatch hsound request
  unfold handle
  generalize dispatch Catalogue.store request archive = answer at hanswer ⊢
  obtain ⟨result, later⟩ := answer
  cases hanswer with
  | shown hfit => exact ⟨hfit.sent _, fun _ => rfl⟩
  | stored =>
      refine ⟨(Response.Fit.of_untitled (by simp) (title?_object (by decide))).sent _, ?_⟩
      intro hstatus
      exact absurd (Response.status_sent _ request.isHead) hstatus
  | declined hproblem => exact ⟨(hproblem.fit time).sent _, fun _ => rfl⟩

/-! ## Runs -/

/-- The responses of a desk with a fresh catalogue. -/
def responses (time : Text) (requests : List Request) : List Response :=
  (serve Catalogue.store time requests .empty).1

def archiveAt (time : Text) (requests : List Request) (position : Nat) : Archive :=
  (serve Catalogue.store time (requests.take position) .empty).2

theorem serve_eq (store : StoreFunction) (time : Text) (requests : List Request)
    (archive : Archive) :
    serve store time requests archive =
      ((Run.trace (handle store time) requests archive).map Prod.fst,
        requests.foldl (fun archive request => (handle store time request archive).2) archive) := by
  induction requests generalizing archive with
  | nil => rfl
  | cons request rest ih =>
      simp only [serve, ih]
      rfl

theorem archiveAt_eq (time : Text) (requests : List Request) (position : Nat) :
    archiveAt time requests position =
      Run.stateAt (handle Catalogue.store time) .empty requests position := by
  rw [archiveAt, serve_eq, Run.stateAt]

theorem getElem?_responses {requests : List Request} {position : Nat}
    (hrequest : requests[position]? = some request) :
    (responses time requests)[position]? =
      some (handle Catalogue.store time request (archiveAt time requests position)).1 := by
  rw [responses, serve_eq, List.getElem?_map, Run.getElem?_trace, hrequest, archiveAt_eq]
  rfl

theorem archiveAt_succ {requests : List Request} {position : Nat}
    (hrequest : requests[position]? = some request) :
    archiveAt time requests (position + 1) =
      (handle Catalogue.store time request (archiveAt time requests position)).2 := by
  rw [archiveAt_eq, archiveAt_eq, Run.stateAt_succ hrequest]

theorem sound_archiveAt (time : Text) (requests : List Request) (position : Nat) :
    Sound (archiveAt time requests position) := by
  rw [archiveAt_eq]
  apply Run.stateAt_invariant Catalogue.sound_empty
  intro request archive hsound
  exact (answer_dispatch hsound request).sound hsound

/-- A formula that is stored, and one that is malformed. -/
def submitted : List Request :=
  ["a+b", "a+"].map fun formula =>
    { method := "POST".toList
      target := ⟨"http".toList, "localhost".toList, "/api/equations/store".toList, []⟩
      contentType := some "application/json".toList
      body := some ("\x7b\"equation\": \"" ++ formula ++ "\"\x7d").toList }

end Formulary.Http
