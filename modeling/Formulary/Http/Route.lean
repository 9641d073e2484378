import Formulary.Binary64.Reading
import Formulary.Text.DigitValue
import Formulary.Text.UpperCase

/-!
# Routes

A route is what the path of a request leads to. Each route has its methods; the head of what can be
got, and the list of methods, can be asked for everywhere. A path that leads somewhere only once the
slashes in a row are made one is moved to the path with single slashes.
-/

namespace Formulary.Http

inductive Route where
  | store
  | list
  | evaluate (id : Nat)
  | health
  /-- A file that pages might link to; there are none. -/
  | asset
  deriving DecidableEq, Repr

inductive Action where
  | post
  | get
  | head
  | options
  deriving DecidableEq, Repr

namespace Route

/-- The id that a part of a path stands for: digits of any script. -/
def idOf? (part : Text) : Option Nat :=
  if part.isEmpty then none else (part.mapM asciiDigit?).map Binary64.value

/-- Whether a text is the name of a file: it does not begin with a slash, and no line ends behind
its first character. -/
def isFileName : Text → Bool
  | [] => false
  | c :: rest => c != '/' && !rest.contains '\n'

def assetFolder : Text := "static/".toList

/-- The route of a path without slashes in front. -/
def ofPath? (path : Text) : Option Route :=
  if assetFolder.isPrefixOf path then
    if isFileName (path.drop assetFolder.length) then some .asset else none
  else
    match path.splitOn '/' with
    | [one] => if one = "health".toList then some .health else none
    | one :: two :: rest =>
      if one = "api".toList ∧ two = "equations".toList then
        match rest with
        | [] => some .list
        | [three] => if three = "store".toList then some .store else none
        | [three, four] => if four = "evaluate".toList then (idOf? three).map .evaluate else none
        | _ => none
      else none
    | [] => none

/-- Whether a route is posted to; what is not posted to is got. -/
def isPosted : Route → Bool
  | store | evaluate _ => true
  | list | health | asset => false

def action? (route : Route) (method : Text) : Option Action :=
  match String.ofList (Text.upper method) with
  | "OPTIONS" => some .options
  | "POST" => if route.isPosted then some .post else none
  | "GET" => if route.isPosted then none else some .get
  | "HEAD" => if route.isPosted then none else some .head
  | _ => none

/-- A path with one slash in place of several in a row. -/
def mergeSlashes : Text → Text
  | '/' :: '/' :: rest => mergeSlashes ('/' :: rest)
  | c :: rest => c :: mergeSlashes rest
  | [] => []

inductive Finding where
  | route (route : Route) (action : Action)
  /-- The route is found at another path, to which requests are sent on. -/
  | moved (path : Text)
  /-- There is a route, but not for the method. -/
  | wrongMethod
  | nothing
  deriving DecidableEq, Repr

/-- What is found at a path with a method. Slashes in front of the path do not count. -/
def find (method path : Text) : Finding :=
  let path := path.dropWhile (· == '/')
  let merged := mergeSlashes path
  let action? (route : Route) : Option (Route × Action) := (route.action? method).map (route, ·)
  match (ofPath? path).bind action?, (ofPath? merged).bind action? with
  | some (route, action), _ => .route route action
  | none, some _ => .moved ('/' :: merged)
  | none, none =>
    if (ofPath? path).isSome || (ofPath? merged).isSome then .wrongMethod else .nothing

end Route

end Formulary.Http
