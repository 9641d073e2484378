import Formulary.Text.Hexadecimal
import Formulary.Text.Utf8

/-!
# Percent signs in targets

A target holds only characters of ASCII: other bytes, and characters that would be misunderstood,
are written as `%` and two hexadecimal digits. What such a target stands for is read from the bytes
as a whole, so that one character may be written in several escapes.
-/

namespace Formulary.Http

/-- The bytes that a text with escapes stands for. A percent sign without two digits behind it
stands for itself. -/
def escapedBytes : Text → List UInt8
  | '%' :: high :: low :: rest =>
    match Text.hexValue? high, Text.hexValue? low with
    | some first, some second => UInt8.ofNat (first * 16 + second) :: escapedBytes rest
    | _, _ => UInt8.ofNat '%'.toNat :: escapedBytes (high :: low :: rest)
  | c :: rest => String.utf8EncodeChar c ++ escapedBytes rest
  | [] => []

def unescape (text : Text) : Text :=
  Text.ofUtf8 (escapedBytes text)

def escapeByte (byte : UInt8) : Text :=
  '%' :: (Text.hexadecimal 2 byte.toNat).map Char.toUpper

def isUnreserved (c : Char) : Bool :=
  c.isAlphanum || ['_', '.', '-', '~'].contains c

/-- A text in which all characters are escaped but the unreserved ones and those of `kept`. -/
def escape (kept : String) (text : Text) : Text :=
  text.flatMap fun c =>
    if isUnreserved c || kept.toList.contains c then [c]
    else (String.utf8EncodeChar c).flatMap escapeByte

end Formulary.Http
