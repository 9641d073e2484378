import Formulary.Http.Target
import Formulary.Json

/-!
# Requests and responses

What of a request the service looks at, and what it answers.
-/

namespace Formulary.Http

structure Request where
  method : Text
  target : Target
  contentType : Option Text
  body : Option Text

inductive RequestFault where
  | badHost (fault : HostFault)
  /-- A line ends in the content type. -/
  | brokenHeader
  deriving DecidableEq, Repr

def RequestFault.message : RequestFault → String
  | badHost fault => fault.message
  | brokenHeader => "Header values must not contain newline characters."

def hasLineEnd (text : Text) : Bool :=
  text.contains '\n' || text.contains '\r'

def Request.ofParts (method target : Text) (contentType body : Option Text) :
    Except RequestFault Request := do
  let target ← (Target.ofText target).mapError .badHost
  if contentType.any hasLineEnd then throw .brokenHeader
  else return { method, target, contentType, body }

inductive Body where
  /-- Nothing: only the head is asked for, or the methods. -/
  | empty
  | json (value : Json)
  /-- A page to be read. -/
  | page (text : Text)

structure Response where
  status : Nat
  body : Body

/-- The media type in front of the parameters of a content type, in small letters. Only spaces and
tabs around it do not count. -/
def mediaType (contentType : Text) : Text :=
  Text.asciiLower (Text.trimBy (fun c => c == ' ' || c == '\t') (contentType.takeWhile (· != ';')))

/-- Whether a media type is JSON: the plain one, or one of an application that is written in
JSON. -/
def isJsonType (mediaType : Text) : Bool :=
  mediaType == "application/json".toList ||
    ("application/".toList.isPrefixOf mediaType && "+json".toList.isSuffixOf mediaType)

def Request.isJson (request : Request) : Bool :=
  isJsonType (mediaType (Text.ofOption request.contentType))

end Formulary.Http
