import Formulary.Json.Reader
import Formulary.Text.Utf8

/-!
# Encodings of JSON

A body in JSON may be written in any of the encodings of Unicode. Since JSON begins with characters
of ASCII, the zeros among its first bytes tell which one it is; a byte order mark in front is
allowed in UTF-8.
-/

namespace Formulary.Json

/-- An encoding of Unicode. In UTF-16 and UTF-32 the high byte of a unit comes first or last. -/
inductive Encoding where
  | utf8
  | utf16 (highFirst : Bool)
  | utf32 (highFirst : Bool)
  deriving DecidableEq, Repr

def Encoding.ofBytes : List UInt8 → Encoding
  | [first, second] =>
    if first = 0 then .utf16 true else if second = 0 then .utf16 false else .utf8
  | first :: second :: third :: fourth :: _ =>
    if first = 0 then if second = 0 then .utf32 true else .utf16 true
    else if second = 0 then
      if third = 0 ∧ fourth = 0 then .utf32 false else .utf16 false
    else .utf8
  | _ => .utf8

def joinBytes (highFirst : Bool) (bytes : List UInt8) : Nat :=
  (if highFirst then bytes else bytes.reverse).foldl
    (fun number byte => number * 256 + byte.toNat) 0

/-- The units of two bytes; a byte that is left over is passed over. -/
def units16 (highFirst : Bool) : List UInt8 → List Nat
  | first :: second :: rest => joinBytes highFirst [first, second] :: units16 highFirst rest
  | _ => []

/-- The units of four bytes; bytes that are left over are passed over. -/
def units32 (highFirst : Bool) : List UInt8 → List Nat
  | first :: second :: third :: fourth :: rest =>
    joinBytes highFirst [first, second, third, fourth] :: units32 highFirst rest
  | _ => []

def dropOrderMark : Text → Text
  | '\uFEFF' :: rest => rest
  | text => text

/-- The text of bytes in an encoding. Bytes that are left over and units beyond the last code point
have none. -/
def Encoding.decode? (bytes : List UInt8) : Encoding → Option Text
  | utf8 => some (dropOrderMark (Text.ofUtf8 bytes))
  | utf16 highFirst =>
    if bytes.length % 2 = 0 then some (joinUnits (units16 highFirst bytes)) else none
  | utf32 highFirst =>
    let points := units32 highFirst bytes
    if bytes.length % 4 = 0 ∧ points.all (· < 0x110000) then some (points.map joinUnit) else none

def readBytes? (bytes : List UInt8) : Option Json :=
  ((Encoding.ofBytes bytes).decode? bytes).bind read?

end Formulary.Json
