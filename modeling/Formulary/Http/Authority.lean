import Formulary.Http.Address
import Formulary.Http.Percent
import Formulary.Text.Punycode
import Formulary.Text.Quoted
import Formulary.Text.UpperCase

/-!
# Hosts in targets

A target may name the host that it is meant for, maybe with a user in front and a port behind. An
address with colons stands in brackets. Names of hosts are labels of limited length between points;
labels of other characters than those of ASCII are brought into a form in ASCII.
-/

namespace Formulary.Http

inductive HostFault where
  /-- One of the brackets around an address is missing. -/
  | unbalancedBrackets
  /-- A text in brackets is no address. -/
  | badAddress (address : Text)
  /-- An address without colons stands in brackets. -/
  | bracketedShortAddress
  /-- An address of a version to come is malformed. -/
  | badFutureAddress
  /-- A label in front of a point is empty or too long. -/
  | badLabel
  /-- The last label is too long. -/
  | longLabel
  /-- A label that is not in ASCII begins like the form in ASCII of another one. -/
  | codedLabel
  | badPort (port : Text)
  | portOutOfRange
  deriving DecidableEq, Repr

def HostFault.message : HostFault → String
  | unbalancedBrackets => "Invalid IPv6 URL"
  | badAddress address =>
    String.ofList (Text.quoted address) ++ " does not appear to be an IPv4 or IPv6 address"
  | bracketedShortAddress => "An IPv4 address cannot be in brackets"
  | badFutureAddress => "IPvFuture address is invalid"
  | badLabel => "encoding with 'idna' codec failed (UnicodeError: label empty or too long)"
  | longLabel => "encoding with 'idna' codec failed (UnicodeError: label too long)"
  | codedLabel => "encoding with 'idna' codec failed (UnicodeError: Label starts with ACE prefix)"
  | badPort port =>
    "Port could not be cast to integer value as " ++ String.ofList (Text.quoted port)
  | portOutOfRange => "Port out of range 0-65535"

structure Authority where
  /-- The name of the user, and the password. -/
  user : Option (Text × Text)
  host : Text
  port : Option Nat
  deriving DecidableEq, Repr

namespace Authority

/-- What comes before the first `mark` in a text and what comes behind it; without one, the whole
text and nothing. -/
def splitFirst (mark : Char) (text : Text) : Text × Text :=
  (text.takeWhile (· != mark), (text.dropWhile (· != mark)).drop 1)

/-- What comes before the last `mark` in a text, if there is one, and what comes behind it. -/
def splitLast (mark : Char) (text : Text) : Option Text × Text :=
  match text.reverse.dropWhile (· != mark) with
  | _ :: before => (some before.reverse, (text.reverse.takeWhile (· != mark)).reverse)
  | [] => (none, text)

/-- Whether a text is an address of a version to come: its version in hexadecimal digits, a point
and anything behind it. -/
def isFutureAddress (text : Text) : Bool :=
  let (version, address) := splitFirst '.' (text.drop 1)
  !version.isEmpty && version.all (fun c => (Text.hexValue? c).isSome) && !address.isEmpty

def bracketFault? (text : Text) : Option HostFault :=
  if text.contains '[' != text.contains ']' then some .unbalancedBrackets
  else if text.contains '[' then
    let address := (splitFirst ']' (splitFirst '[' text).2).1
    if address.head? = some 'v' then
      if isFutureAddress address then none else some .badFutureAddress
    else if isShortAddress address then some .bracketedShortAddress
    else if isLongAddress address then none
    else some (.badAddress address)
  else none

/-- The host and the port in a text, without brackets around the host. -/
def splitPort (text : Text) : Text × Text :=
  if text.contains '[' then
    let (host, behind) := splitFirst ']' (splitFirst '[' text).2
    (host, (splitFirst ':' behind).2)
  else splitFirst ':' text

/-- A name of a host in small letters; the name of a zone is kept. -/
def lowerHost (host : Text) : Text :=
  Text.asciiLower (host.takeWhile (· != '%')) ++ host.dropWhile (· != '%')

/-- Whether a label is empty or too long. -/
def isBadLabel (label : Text) : Bool :=
  label.isEmpty || 63 < label.length

/-- The fault of the labels of a host in ASCII, if it has one. Only the last label may be empty. -/
def labelFault? (host : Text) : Option HostFault :=
  let labels := host.splitOn '.'
  if host.isEmpty then none
  else if labels.dropLast.any isBadLabel then some .badLabel
  else if labels.getLast?.any fun label => 63 < label.length then some .longLabel
  else none

/-- What the form in ASCII of a label begins with. -/
def codedMark : Text := "xn--".toList

def asciiLabel (label : Text) : Except HostFault Text :=
  let isPlain := label.all Text.isAscii
  let coded := if isPlain then label else codedMark ++ Text.punycode label
  if !isPlain && codedMark.isPrefixOf label then .error .codedLabel
  else if isBadLabel coded then .error .badLabel
  else .ok coded

/-- The characters that stand for a point between labels in other scripts. -/
def points : List Char := ['\u3002', '\uFF0E', '\uFF61']

def asciiHost (host : Text) : Except HostFault Text :=
  if host.all Text.isAscii then
    match labelFault? host with
    | some fault => .error fault
    | none => .ok host
  else do
    let labels := (host.map fun c => if points.contains c then '.' else c).splitOn '.'
    let isRooted := labels.getLast? == some []
    let coded ← (if isRooted then labels.dropLast else labels).mapM asciiLabel
    return ['.'].intercalate (if isRooted then coded ++ [[]] else coded)

/-- The port that a text is written for; nothing stands for none. -/
def readPort (text : Text) : Except HostFault (Option Nat) :=
  if text.isEmpty then .ok none
  else if !text.all Char.isDigit then .error (.badPort text)
  else if 65535 < Binary64.value text then .error .portOutOfRange
  else .ok (some (Binary64.value text))

def ofText (text : Text) : Except HostFault Authority := do
  let (user, place) := splitLast '@' text
  let (host, port) := splitPort place
  let host ← asciiHost (lowerHost host)
  return { user := user.map (splitFirst ':'), host, port := ← readPort port }

/-- The characters beside the unreserved ones that stand for themselves in the name of a user. -/
def keptInUser : String := "%!$&'()*+,;="

/-- A user as it is written in front of a host: nothing without a name. -/
def writeUser (name password : Text) : Text :=
  if name.isEmpty then []
  else
    escape keptInUser name ++
      (if password.isEmpty then [] else ':' :: escape keptInUser password) ++ ['@']

/-- An authority as it is written in a link. The port zero is left out. -/
def write (authority : Authority) : Text :=
  let user :=
    match authority.user with
    | some (name, password) => writeUser name password
    | none => []
  let host :=
    if authority.host.contains ':' then '[' :: (authority.host ++ [']']) else authority.host
  let port :=
    match authority.port with
    | some (number + 1) => ':' :: Nat.toDigits 10 (number + 1)
    | _ => []
  user ++ host ++ port

end Authority

end Formulary.Http
