import Formulary.Proofs.Fields
import Formulary.Proofs.Http.Desk

/-!
# What the desk has on record was stored

Over the desk formulas are only added: a request either leaves the record as it is or stores the
formula that it brings, and then the response tells the id.  So every entry was answered to an
earlier request, and the entry that was answered to a request is there from then on.
-/

namespace Formulary.Http

open Catalogue (Sound)

variable {archive : Archive} {request : Request} {time : Text} {requests : List Request}
variable {route : Route} {action : Action} {text : Text} {id position : Nat}

/-! ## Requests that store -/

theorem Route.action?_of_find {method path : Text}
    (hfind : Route.find method path = .route route action) :
    route.action? method = some action := by
  unfold Route.find at hfind
  dsimp only at hfind
  split at hfind
  next found acted hfound =>
      cases hfind
      obtain ⟨_, -, hroute⟩ := Option.bind_eq_some_iff.mp hfound
      obtain ⟨_, haction, hpair⟩ := Option.map_eq_some_iff.mp hroute
      cases hpair
      exact haction
  next => cases hfind
  next => split at hfind <;> cases hfind

/-- The head of what is posted to cannot be asked for. -/
theorem isHead_of_isPosted (hposted : route.isPosted)
    (haction : route.action? request.method = some action) : request.isHead = false := by
  rw [Request.isHead, beq_eq_false_iff_ne]
  intro hmethod
  have hupper : String.ofList (Text.upper "HEAD".toList) = "HEAD" := by decide +kernel
  rw [hmethod, Route.action?, hupper] at haction
  simp [hposted] at haction

/-- A request leaves the record alone and is not answered with a new id, or it is one to store. -/
theorem dispatch_cases (store : StoreFunction) (request : Request) (archive : Archive) :
    ((dispatch store request archive).2 = archive ∧
        ∀ response, (dispatch store request archive).1 = .ok response → response.status ≠ 201) ∨
      dispatch store request archive = answerStore store request archive ∧
        request.isHead = false := by
  unfold dispatch
  dsimp only
  split
  · exact .inl ⟨rfl, by simp⟩
  split
  next => exact .inl ⟨rfl, by simp⟩
  next => exact .inl ⟨rfl, by simp⟩
  next => split <;> exact .inl ⟨rfl, by simp⟩
  next route action hfind =>
      split
      · exact .inl ⟨rfl, by simp⟩
      -- Of the routes only the one to store reaches the record.
      unfold act
      split
      next => exact .inl ⟨rfl, by simp⟩
      next => exact .inr ⟨rfl, isHead_of_isPosted rfl (Route.action?_of_find hfind)⟩
      next =>
          refine .inl ⟨rfl, ?_⟩
          intro response hanswer
          simp only [answerEvaluate, bind_eq_ok_iff] at hanswer
          obtain ⟨_, -, _, -, _, -, hresponse⟩ := hanswer
          cases hresponse
          simp
      next => exact .inl ⟨rfl, by simp⟩
      next => exact .inl ⟨rfl, by simp⟩
      next => exact .inl ⟨rfl, by simp⟩

/-- The text that the body of a request brings to be stored, if it brings one. -/
def Request.formula? (request : Request) : Option Text :=
  (readBody request).toOption.bind fun body => (formulaOf body).toOption

def created (id : Nat) : Response :=
  ⟨201, .json (.object [("id", .integer id)])⟩

def Response.field? (response : Response) (name : String) : Option Json :=
  match response.body with
  | .json value => value.field? name
  | _ => none

/-- The id that a response tells for a formula that is stored. -/
def Response.createdId? (response : Response) : Option Int :=
  if response.status = 201 then
    match response.field? "id" with
    | some (.integer id) => some id
    | _ => none
  else none

theorem createdId?_created (id : Nat) : (created id).createdId? = some (id : Int) := by
  have hfield : (created id).field? "id" = some (.integer id) := by
    simp [Response.field?, created, Json.object, Json.field?, Json.fields?]
  have hstatus : (created id).status = 201 := rfl
  rw [Response.createdId?, if_pos hstatus, hfield]

theorem answerStore_cases (hsound : Sound archive) (request : Request) :
    (∃ problem, answerStore Catalogue.store request archive = (.error problem, archive)) ∨
      ∃ text id, request.formula? = some text ∧ (Catalogue.store text archive).1 = .ok id ∧
        answerStore Catalogue.store request archive =
          (.ok (created id), (Catalogue.store text archive).2) := by
  unfold answerStore
  split
  next => exact .inl ⟨_, rfl⟩
  next text hread =>
      obtain ⟨body, hbody, hformula⟩ := bind_eq_ok_iff.mp hread
      split
      next id later hstored =>
          have hbrought : request.formula? = some text := by
            rw [Request.formula?, hbody]
            exact congrArg Except.toOption (mapError_eq_ok_iff.mp hformula)
          refine .inr ⟨text, id, hbrought, ?_⟩
          rw [hstored]
          exact ⟨rfl, rfl⟩
      next fault later hstored =>
          have hend := Catalogue.storeEnd hsound text
          rw [hstored] at hend
          cases hend with
          | refused => exact .inl ⟨_, rfl⟩

theorem Problem.status_ne_created (problem : Problem) : problem.status ≠ 201 := by
  unfold Problem.status
  split <;> simp

/-- A request leaves the record alone and is not answered with a new id, or the text that it brings
is stored and the response tells the id. -/
theorem handle_cases (hsound : Sound archive) (time : Text) (request : Request) :
    ((handle Catalogue.store time request archive).1.status ≠ 201 ∧
        (handle Catalogue.store time request archive).2 = archive) ∨
      ∃ text id, request.formula? = some text ∧ (Catalogue.store text archive).1 = .ok id ∧
        handle Catalogue.store time request archive =
          (created id, (Catalogue.store text archive).2) := by
  unfold handle
  rcases dispatch_cases Catalogue.store request archive with ⟨hkept, hstatus⟩ | ⟨hdispatch, hhead⟩
  · generalize dispatch Catalogue.store request archive = answer at hkept hstatus ⊢
    obtain ⟨result, later⟩ := answer
    refine .inl ⟨?_, hkept⟩
    rw [Response.status_sent]
    cases result with
    | ok response => exact hstatus response rfl
    | error problem => exact problem.status_ne_created
  · rw [hdispatch, hhead]
    rcases answerStore_cases hsound request with
      ⟨problem, hanswer⟩ | ⟨text, id, hbrought, hid, hanswer⟩
    · rw [hanswer]
      exact .inl ⟨problem.status_ne_created, rfl⟩
    · rw [hanswer]
      exact .inr ⟨text, id, hbrought, hid, rfl⟩

/-! ## Runs -/

/-- The request at a position brings a text, and the response tells the id that it is stored
under. -/
structure StoredAt (time : Text) (requests : List Request) (position : Nat) (text : Text)
    (id : Nat) : Prop where
  brought : requests[position]?.bind Request.formula? = some text
  answered : (responses time requests)[position]?.bind Response.createdId? = some (id : Int)

theorem archiveAt_succ_of_none (hnone : requests[position]? = none) :
    archiveAt time requests (position + 1) = archiveAt time requests position := by
  rw [archiveAt_eq, archiveAt_eq, Run.stateAt_succ_of_none hnone]

/-- What is on record was answered to an earlier request. -/
theorem exists_storedAt {entry : Entry}
    (hentry : entry ∈ (archiveAt time requests position).entries) :
    ∃ earlier < position, ∃ text, StoredAt time requests earlier text entry.id := by
  induction position with
  | zero => cases hentry
  | succ position ih =>
      have hbefore (hearlier : entry ∈ (archiveAt time requests position).entries) :
          ∃ earlier < position + 1, ∃ text, StoredAt time requests earlier text entry.id := by
        obtain ⟨earlier, hlt, hstored⟩ := ih hearlier
        exact ⟨earlier, Nat.lt_succ_of_lt hlt, hstored⟩
      cases hrequest : requests[position]? with
      | none =>
          rw [archiveAt_succ_of_none hrequest] at hentry
          exact hbefore hentry
      | some request =>
          rw [archiveAt_succ hrequest] at hentry
          have hsound := sound_archiveAt time requests position
          rcases handle_cases hsound time request with
            ⟨-, hkept⟩ | ⟨text, id, hbrought, hid, hhandle⟩
          · rw [hkept] at hentry
            exact hbefore hentry
          · rw [hhandle] at hentry
            rcases Catalogue.mem_entries_store hsound hentry with hearlier | hsame
            · exact hbefore hearlier
            · obtain rfl : id = entry.id := Except.ok.inj (hid.symm.trans hsame)
              refine ⟨position, Nat.lt_succ_self position, text, ?_, ?_⟩
              · rw [hrequest, Option.bind_some, hbrought]
              · rw [getElem?_responses hrequest, hhandle, Option.bind_some, createdId?_created]

theorem grows_handle (hsound : Sound archive) (time : Text) (request : Request) :
    archive.Grows (handle Catalogue.store time request archive).2 := by
  rcases handle_cases hsound time request with ⟨-, hkept⟩ | ⟨text, id, -, -, hhandle⟩
  · rw [hkept]
    exact .refl archive
  · rw [hhandle]
    exact Catalogue.grows_store text archive

theorem grows_archiveAt {first last : Nat} (hle : first ≤ last) :
    (archiveAt time requests first).Grows (archiveAt time requests last) := by
  induction last, hle using Nat.le_induction with
  | base => exact .refl _
  | succ last hle ih =>
      refine ih.trans ?_
      cases hrequest : requests[last]? with
      | none =>
          rw [archiveAt_succ_of_none hrequest]
          exact .refl _
      | some request =>
          rw [archiveAt_succ hrequest]
          exact grows_handle (sound_archiveAt time requests last) time request

/-- From then on the entry that was answered for a text is on record, and stands for its tree. -/
theorem StoredAt.exists_entry {earlier : Nat} (hstored : StoredAt time requests earlier text id)
    (hlt : earlier < position) :
    ∃ entry ∈ (archiveAt time requests position).entries, entry.id = id ∧
      ∃ tree, Expr.parse entry.source = .ok tree ∧ Expr.parse text = .ok tree := by
  obtain ⟨request, hrequest, hbrought⟩ := Option.bind_eq_some_iff.mp hstored.brought
  have hsound := sound_archiveAt time requests earlier
  have hgrows : (archiveAt time requests (earlier + 1)).Grows (archiveAt time requests position) :=
    grows_archiveAt hlt
  have hanswered := hstored.answered
  rw [getElem?_responses hrequest, Option.bind_some] at hanswered
  rw [archiveAt_succ hrequest] at hgrows
  rcases handle_cases hsound time request with
    ⟨hstatus, -⟩ | ⟨other, given, hother, hgiven, hhandle⟩
  · rw [Response.createdId?, if_neg hstatus] at hanswered
    cases hanswered
  · obtain rfl : other = text := Option.some.inj (hother.symm.trans hbrought)
    rw [hhandle] at hanswered hgrows
    rw [createdId?_created] at hanswered
    obtain rfl : given = id := Int.ofNat_inj.mp (Option.some.inj hanswered)
    obtain ⟨entry, hentry, hid, htree⟩ := Catalogue.exists_entry_of_store hsound hgiven
    exact ⟨entry, hgrows.kept.subset hentry, hid, htree⟩

end Formulary.Http
