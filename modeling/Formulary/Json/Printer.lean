import Formulary.Binary64.Numeral
import Formulary.Json
import Formulary.Text.Hexadecimal

/-!
# Writing JSON

JSON is written in ASCII: other characters by the code units of UTF-16. Items and fields stand on
lines of their own, each level two columns further in; empty lists and records have no lines.
-/

namespace Formulary.Json

/-- A code unit of UTF-16 as four small hexadecimal digits. -/
def codeUnit (unit : Nat) : Text :=
  '\\' :: 'u' :: Text.hexadecimal 4 unit

def escapeChar (c : Char) : Text :=
  if c = '"' || c = '\\' then ['\\', c]
  else if c = '\n' then ['\\', 'n']
  else if c = '\r' then ['\\', 'r']
  else if c = '\t' then ['\\', 't']
  else if c = '\x08' then ['\\', 'b']
  else if c = '\x0c' then ['\\', 'f']
  else if ' ' ≤ c ∧ c ≤ '~' then [c]
  else if c.toNat < 0x10000 then codeUnit c.toNat
  else
    let offset := c.toNat - 0x10000
    codeUnit (0xD800 + offset / 0x400) ++ codeUnit (0xDC00 + offset % 0x400)

def quote (text : Text) : Text :=
  '"' :: (text.flatMap escapeChar ++ ['"'])

def writeInteger (n : Int) : Text :=
  if n < 0 then '-' :: Binary64.digits n.natAbs else Binary64.digits n.natAbs

def newLine (level : Nat) : Text :=
  '\n' :: List.replicate (2 * level) ' '

mutual

/-- A value whose first line begins somewhere at a level, in front of the text `after`. -/
def writeAt (level : Nat) (after : Text) : Json → Text
  | null => "null".toList ++ after
  | bool true => "true".toList ++ after
  | bool false => "false".toList ++ after
  | integer value => writeInteger value ++ after
  | real value => Binary64.write value ++ after
  | string value => quote value ++ after
  | list [] => '[' :: ']' :: after
  | list (item :: rest) =>
    let ending := newLine level ++ ']' :: after
    '[' :: (newLine (level + 1) ++
      writeAt (level + 1) (writeItems (level + 1) ending rest) item)
  | record [] => '\x7b' :: '\x7d' :: after
  | record (field :: rest) =>
    let ending := newLine level ++ '\x7d' :: after
    '\x7b' :: (newLine (level + 1) ++ quote field.1 ++ ':' :: ' ' ::
      writeAt (level + 1) (writeFields (level + 1) ending rest) field.2)

/-- The items after the first one, in front of the text `after`. -/
def writeItems (level : Nat) (after : Text) : List Json → Text
  | [] => after
  | item :: rest => ',' :: (newLine level ++ writeAt level (writeItems level after rest) item)

def writeFields (level : Nat) (after : Text) : List (Text × Json) → Text
  | [] => after
  | field :: rest =>
    ',' :: (newLine level ++ quote field.1 ++ ':' :: ' ' ::
      writeAt level (writeFields level after rest) field.2)

end

def write (value : Json) : Text :=
  writeAt 0 [] value

mutual

/-- How many lists and records are open at once while a value is written. -/
def nesting : Json → Nat
  | list items => itemsNesting items + 1
  | record fields => fieldsNesting fields + 1
  | _ => 0

def itemsNesting : List Json → Nat
  | [] => 0
  | item :: rest => max item.nesting (itemsNesting rest)

def fieldsNesting : List (Text × Json) → Nat
  | [] => 0
  | (_, value) :: rest => max value.nesting (fieldsNesting rest)

end

end Formulary.Json
