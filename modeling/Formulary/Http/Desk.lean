import Formulary.Catalogue
import Formulary.Http.Form
import Formulary.Http.Message
import Formulary.Http.Page
import Formulary.Http.Route
import Formulary.Json.Encoding

/-!
# The desk

The desk answers requests from a catalogue. It checks the route, the method, the content type, the
JSON and the fields of a request in this order, and the first thing that is wrong is answered. Every
answer other than a success is a record of the time, the status, a title, a message and details.
-/

namespace Formulary.Http

inductive Problem where
  | unknownPath
  | unknownMethod
  /-- The target has no name of a server, or asks for a connection that stays open. -/
  | misdirected
  | unsupportedType (contentType : Text)
  | malformedBody
  | invalid (issues : List Issue)
  | failed (fault : Fault)

namespace Problem

def status : Problem → Nat
  | unknownPath => 404
  | unknownMethod => 405
  | misdirected => 400
  | unsupportedType _ => 415
  | malformedBody => 400
  | invalid _ => 400
  | failed (.malformed _) | failed (.missingVariable _) | failed .divisionByZero
  | failed (.badArgument _) => 400
  | failed (.notFound _) => 404
  | failed _ => 500

def title : Problem → String
  | unknownPath => "Not Found"
  | unknownMethod => "Method Not Allowed"
  | misdirected => "Bad Request"
  | unsupportedType _ => "Unsupported Media Type"
  | malformedBody => "Malformed JSON"
  | invalid _ => "Validation Failed"
  | failed (.malformed _) => "Invalid Equation Syntax"
  | failed (.missingVariable _) => "Missing Variable"
  | failed .divisionByZero => "Arithmetic Error"
  | failed (.notFound _) => "Equation Not Found"
  | failed (.badArgument _) => "Invalid Argument"
  | failed _ => "Internal Server Error"

def message : Problem → String
  | unknownPath =>
    "The requested URL was not found on the server. If you entered the URL manually please " ++
      "check your spelling and try again."
  | unknownMethod => "The method is not allowed for the requested URL."
  | misdirected => "The browser (or proxy) sent a request that this server could not understand."
  | unsupportedType contentType =>
    "Content-Type '" ++ String.ofList contentType ++
      "' is not supported. Expected 'application/json'"
  | malformedBody => "Request body contains invalid JSON"
  | invalid _ => "Input validation failed"
  | problem@(failed fault) =>
    if problem.status = 500 then "An unexpected error occurred" else fault.message

/-- What an issue with a body is filed under: the way to the value, or the body as a whole. -/
def issueKey (issue : Issue) : Text :=
  if issue.place.isEmpty then "body".toList else issue.place

/-- The complaints about a body by what they are filed under. -/
def fieldErrors (issues : List Issue) : List (Text × Json) :=
  issues.foldl (fun fields issue =>
    setField (issueKey issue) (Json.ofString issue.cause.complaint) fields) []

def details : Problem → List (Text × Json)
  | unsupportedType _ =>
    [("supportedMediaTypes".toList, .list [Json.ofString "application/json"])]
  | invalid issues => [("fieldErrors".toList, .record (fieldErrors issues))]
  | failed (.missingVariable name) => [("missingVariable".toList, .string name)]
  | _ => []

def response (time : Text) (problem : Problem) : Response where
  status := problem.status
  body := .json (.record (
    [("timestamp".toList, .string time), ("status".toList, .integer problem.status),
     ("error".toList, Json.ofString problem.title),
     ("message".toList, Json.ofString problem.message)] ++ problem.details))

end Problem

abbrev StoreFunction := Text → Archive → Except Fault Nat × Archive

/-- A store that is out of order. -/
def brokenStore : StoreFunction :=
  fun _ archive => (.error .outage, archive)

def readBody (request : Request) : Except Problem Json :=
  if request.isJson then
    match Json.readBytes? (Text.toUtf8 (Text.ofOption request.body)) with
    | none | some .null => .error .malformedBody
    | some value => .ok value
  else
    let given := Text.ofOption request.contentType
    .error (.unsupportedType (if given.isEmpty then "unknown".toList else given))

def answerStore (store : StoreFunction) (request : Request) (archive : Archive) :
    Except Problem Response × Archive :=
  match readBody request >>= fun body => (formulaOf body).mapError .invalid with
  | .error problem => (.error problem, archive)
  | .ok text =>
    match store text archive with
    | (.ok id, archive) => (.ok ⟨201, .json (.object [("id", .integer id)])⟩, archive)
    | (.error fault, archive) => (.error (.failed fault), archive)

def answerEvaluate (id : Nat) (request : Request) (archive : Archive) :
    Except Problem Response := do
  let body ← readBody request
  let values ← (variablesOf body).mapError .invalid
  let result ← (Catalogue.evaluate (some id) (some (Environment.ofReals values)) archive).mapError
    .failed
  return ⟨200, .json (.object [("result", Json.ofDouble result)])⟩

def listing (archive : Archive) : Json :=
  .list ((Catalogue.summaries archive).map fun (id, source) =>
    .object [("id", .integer id), ("infix", .string source)])

def act (store : StoreFunction) (route : Route) (action : Action) (request : Request)
    (archive : Archive) : Except Problem Response × Archive :=
  match action, route with
  | .options, _ => (.ok ⟨200, .empty⟩, archive)
  | _, .store => answerStore store request archive
  | _, .evaluate id => (answerEvaluate id request archive, archive)
  | _, .list => (.ok ⟨200, .json (listing archive)⟩, archive)
  | _, .health => (.ok ⟨200, .json (.object [("status", .ofString "UP")])⟩, archive)
  | _, .asset => (.error .unknownPath, archive)

/-- The answer to a request, before problems are written out. -/
def dispatch (store : StoreFunction) (request : Request) (archive : Archive) :
    Except Problem Response × Archive :=
  let target := request.target
  if target.hasBadName then (.error .misdirected, archive)
  else
    match Route.find request.method target.path with
    | .nothing => (.error .unknownPath, archive)
    | .wrongMethod => (.error .unknownMethod, archive)
    | .moved path =>
      if target.isSocket then (.error .misdirected, archive)
      else (.ok ⟨308, .page (redirection (target.linkTo path))⟩, archive)
    | .route route action =>
      if target.isSocket then (.error .misdirected, archive)
      else act store route action request archive

def Request.isHead (request : Request) : Bool :=
  request.method == "HEAD".toList

def handle (store : StoreFunction) (time : Text) (request : Request) (archive : Archive) :
    Response × Archive :=
  let (result, archive) := dispatch store request archive
  let response :=
    match result with
    | .ok response => response
    | .error problem => problem.response time
  (if request.isHead then { response with body := .empty } else response, archive)

def serve (store : StoreFunction) (time : Text) : List Request → Archive → List Response × Archive
  | [], archive => ([], archive)
  | request :: rest, archive =>
    let (response, archive) := handle store time request archive
    let (responses, archive) := serve store time rest archive
    (response :: responses, archive)

end Formulary.Http
