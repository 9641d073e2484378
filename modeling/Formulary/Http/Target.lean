import Formulary.Http.Authority

/-!
# Targets of requests

What a request is sent to may be a path, or a link with a scheme and a host in front. This module
takes a target apart into what routes and links are made of. The path is taken apart more than once,
so two slashes in front of it can name a host again.
-/

namespace Formulary.Http

/-- The parts of a link, none of them read further. What comes behind `#` is left out. -/
structure Link where
  scheme : Text
  authority : Text
  path : Text
  query : Text
  deriving DecidableEq, Repr

namespace Link

/-- A text without controls and spaces in front and without tabs and line ends anywhere. -/
def clean (text : Text) : Text :=
  (text.dropWhile fun c => c ≤ ' ').filter fun c => !(['\t', '\r', '\n'].contains c)

/-- Whether a text is the name of a scheme: a letter, and letters, digits and a few marks. -/
def isScheme (text : Text) : Bool :=
  text.head?.any Char.isAlpha &&
    text.all fun c => c.isAlphanum || ['+', '-', '.'].contains c

/-- The scheme in front of a text, in small letters, and what follows its colon. -/
def splitScheme (text : Text) : Text × Text :=
  let scheme := text.takeWhile (· != ':')
  if text.contains ':' && isScheme scheme then
    (Text.asciiLower scheme, text.drop (scheme.length + 1))
  else ([], text)

/-- What two slashes in front of a text name, up to a character that ends it, and what follows. -/
def splitAuthority : Text → Text × Text
  | '/' :: '/' :: rest =>
    let ends (c : Char) : Bool := ['/', '?', '#'].contains c
    (rest.takeWhile (!ends ·), rest.dropWhile (!ends ·))
  | rest => ([], rest)

def ofText (text : Text) : Except HostFault Link :=
  let (scheme, rest) := splitScheme (clean text)
  let (authority, rest) := splitAuthority rest
  match Authority.bracketFault? authority with
  | some fault => .error fault
  | none =>
    let (path, query) := Authority.splitFirst '?' (rest.takeWhile (· != '#'))
    .ok { scheme, authority, path, query }

/-- A query behind its mark; an empty one leaves nothing. -/
def writeQuery (query : Text) : Text :=
  if query.isEmpty then [] else '?' :: query

/-- The path of a link behind the scheme and the authority, if it has them. -/
def wholePath (link : Link) : Except HostFault Text := do
  let host := (← Authority.ofText link.authority).write
  let scheme := if link.scheme.isEmpty then [] else link.scheme ++ [':']
  if host.isEmpty then return scheme ++ link.path
  else return scheme ++ '/' :: '/' :: (host ++ link.path)

end Link

structure Target where
  scheme : Text
  /-- The host as it is written in links, maybe with a user and a port. -/
  host : Text
  /-- The path, with its escapes resolved. -/
  path : Text
  query : Text
  deriving DecidableEq, Repr

namespace Target

/-- The ports that belong to schemes and are left out behind a host. -/
def standardPorts : List (String × String) :=
  [("http", ":80"), ("ws", ":80"), ("https", ":443"), ("wss", ":443")]

def dropStandardPort (scheme host : Text) : Text :=
  match standardPorts.lookup (String.ofList scheme) with
  | some port =>
    if port.toList.isSuffixOf host then host.take (host.length - port.length) else host
  | none => host

def orElse (text : Text) (default : String) : Text :=
  if text.isEmpty then default.toList else text

def ofText (text : Text) : Except HostFault Target := do
  let outer ← Link.ofText text
  let inner ← Link.ofText (outer.path ++ Link.writeQuery outer.query)
  let path ← (← Link.ofText inner.path).wholePath
  let scheme := orElse outer.scheme "http"
  let authority ← Authority.ofText (orElse outer.authority "localhost")
  return {
    scheme
    host := Text.asciiLower (dropStandardPort scheme authority.write)
    path := unescape path
    query := inner.query }

/-- The characters beside the unreserved ones that stand for themselves in the path of a link. -/
def keptInPath : String := "!$&'()*+,/:;=@"

/-- A link to another path of the target's host, with the same query. -/
def linkTo (target : Target) (path : Text) : Text :=
  target.scheme ++ "://".toList ++ target.host ++ escape keptInPath path ++
    Link.writeQuery target.query

/-- Whether what comes before the first colon of the host, which may be a user, could not be the
name of a server. -/
def hasBadName (target : Target) : Bool :=
  (Authority.labelFault? (Authority.splitFirst ':' target.host).1).isSome

/-- Whether a target asks for a connection that stays open for messages. -/
def isSocket (target : Target) : Bool :=
  ["ws", "wss"].contains (String.ofList target.scheme)

end Target

end Formulary.Http
