import Formulary.Text

/-!
# Texts in bytes

A text is sent in UTF-8, one to four bytes for each character. Bytes that are no UTF-8 are read all
the same: each longest piece that could have begun a character becomes the replacement character,
and so does each byte that can begin none.
-/

namespace Formulary.Text

def toUtf8 (text : Text) : List UInt8 :=
  text.flatMap String.utf8EncodeChar

def replacement : Char := '\uFFFD'

/-- A character of several bytes, of which the first ones are read: the bits so far, how many bytes
are missing, and the range of the next one. -/
structure Partial where
  bits : Nat
  missing : Nat
  least : Nat
  greatest : Nat

/-- The character that a byte begins, if it begins one of several bytes. The second byte is bounded
so that no character is written longer than need be, none is half of a pair of code units, and none
lies beyond the last code point. -/
def Partial.begin? (byte : Nat) : Option Partial :=
  if 0xC2 ≤ byte ∧ byte ≤ 0xDF then some ⟨byte - 0xC0, 1, 0x80, 0xBF⟩
  else if byte = 0xE0 then some ⟨0, 2, 0xA0, 0xBF⟩
  else if byte = 0xED then some ⟨0xD, 2, 0x80, 0x9F⟩
  else if 0xE1 ≤ byte ∧ byte ≤ 0xEF then some ⟨byte - 0xE0, 2, 0x80, 0xBF⟩
  else if byte = 0xF0 then some ⟨0, 3, 0x90, 0xBF⟩
  else if 0xF1 ≤ byte ∧ byte ≤ 0xF3 then some ⟨byte - 0xF0, 3, 0x80, 0xBF⟩
  else if byte = 0xF4 then some ⟨4, 3, 0x80, 0x8F⟩
  else none

def beginChar (byte : Nat) : Text × Option Partial :=
  if byte < 0x80 then ([Char.ofNat byte], none)
  else
    match Partial.begin? byte with
    | some begun => ([], some begun)
    | none => ([replacement], none)

def Partial.step (begun : Partial) (byte : Nat) : Text × Option Partial :=
  if begun.least ≤ byte ∧ byte ≤ begun.greatest then
    let bits := begun.bits * 64 + (byte - 0x80)
    if begun.missing ≤ 1 then ([Char.ofNat bits], none)
    else ([], some ⟨bits, begun.missing - 1, 0x80, 0xBF⟩)
  else
    let (chars, begun) := beginChar byte
    (replacement :: chars, begun)

def readUtf8 : Option Partial → List UInt8 → Text
  | none, [] => []
  | some _, [] => [replacement]
  | begun, byte :: rest =>
    let (chars, begun) :=
      match begun with
      | some begun => begun.step byte.toNat
      | none => beginChar byte.toNat
    chars ++ readUtf8 begun rest

/-- The text of bytes in UTF-8, with replacements for what is none. -/
def ofUtf8 (bytes : List UInt8) : Text :=
  readUtf8 none bytes

end Formulary.Text
