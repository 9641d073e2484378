import Formulary.Text

/-!
# A place in a settings file

A cursor is what is left of a text, with the index, the line and the column of its first character.
Nested blocks are told apart by columns, so every step keeps them.
-/

namespace Formulary.Yaml

structure Cursor where
  rest : Text
  index : Nat
  line : Nat
  column : Nat

def isBreak (c : Char) : Bool :=
  c == '\n' || c == '\u0085' || c == '\u2028' || c == '\u2029'

/-- Whether a character ends a word; so does the end of the text. -/
def isGap : Option Char → Bool
  | none => true
  | some c => c == ' ' || c == '\t' || isBreak c

def isAllowed (c : Char) : Bool :=
  inRanges [(0x9, 0xA), (0xD, 0xD), (0x20, 0x7E), (0x85, 0x85), (0xA0, 0xD7FF), (0xE000, 0xFFFD),
    (0x10000, 0x10FFFF)] c.toNat

namespace Cursor

/-- The beginning of a text. A byte order mark in front of it takes no column. -/
def start (text : Text) : Cursor :=
  match text with
  | '\uFEFF' :: rest => ⟨rest, 1, 0, 0⟩
  | _ => ⟨text, 0, 0, 0⟩

def peek (cursor : Cursor) (ahead : Nat) : Option Char :=
  cursor.rest[ahead]?

def next (cursor : Cursor) : Cursor :=
  match cursor.rest with
  | [] => cursor
  | c :: rest =>
    if isBreak c then ⟨rest, cursor.index + 1, cursor.line + 1, 0⟩
    else if c = '\uFEFF' then ⟨rest, cursor.index + 1, cursor.line, cursor.column⟩
    else ⟨rest, cursor.index + 1, cursor.line, cursor.column + 1⟩

def skip (cursor : Cursor) : Nat → Cursor
  | 0 => cursor
  | count + 1 => cursor.next.skip count

def span (cursor : Cursor) (take : Char → Bool) : Text × Cursor :=
  let taken := cursor.rest.takeWhile take
  (taken, cursor.skip taken.length)

/-- Whether one of the two marks that part documents stands at a cursor, as a word. -/
def atMark (cursor : Cursor) (mark : Char) : Bool :=
  cursor.rest.take 3 == [mark, mark, mark] && isGap (cursor.peek 3)

def atDocumentMark (cursor : Cursor) : Bool :=
  cursor.atMark '-' || cursor.atMark '.'

/-- Over spaces and comments and the ends of lines; and whether a line ended. -/
def skipSpace (cursor : Cursor) : Nat → Bool → Cursor × Bool
  | 0, ended => (cursor, ended)
  | limit + 1, ended =>
    let cursor := (cursor.span (· == ' ')).2
    let cursor := if cursor.peek 0 = some '#' then (cursor.span (!isBreak ·)).2 else cursor
    match cursor.peek 0 with
    | some c => if isBreak c then cursor.next.skipSpace limit true else (cursor, ended)
    | none => (cursor, ended)

end Cursor

/-- What a line end inside a scalar stands for: a line feed is folded, the separators of Unicode are
kept as they are. -/
def breakText (c : Char) : Text :=
  if c = '\u2028' || c = '\u2029' then [c] else ['\n']

/-- What the line ends between two parts of a scalar stand for: the first line feed for a space, or
for nothing if other line ends follow. -/
def foldBreaks (first : Char) (others : Text) : Text :=
  (if breakText first = ['\n'] then (if others.isEmpty then [' '] else []) else breakText first) ++
    others

end Formulary.Yaml
