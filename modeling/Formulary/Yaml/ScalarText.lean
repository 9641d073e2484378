import Formulary.Text.Hexadecimal
import Formulary.Yaml.Cursor
import Formulary.Yaml.Fault

/-!
# Scalars in a settings file

A scalar is written plainly or between quotation marks, and may go over several lines, whose ends
are folded. This module reads the text of one scalar at a cursor; whether the text denotes a number,
a flag or a date is decided later.
-/

namespace Formulary.Yaml

/-- Whether a plain scalar ends in front of a character, of which the one behind it is `following`.
Inside brackets more characters end it. -/
def endsPlain (inFlow : Bool) (c : Char) (following : Option Char) : Bool :=
  isGap (some c) ||
    (c == ':' && (isGap following || (inFlow && [some ',', some '[', some ']', some '\x7b',
      some '\x7d'].contains following))) ||
    (inFlow && [',', '?', '[', ']', '\x7b', '\x7d'].contains c)

/-- How many characters a plain scalar takes up to its next gap. -/
def plainLength (inFlow : Bool) : Text → Nat
  | [] => 0
  | c :: rest => if endsPlain inFlow c rest.head? then 0 else plainLength inFlow rest + 1

/-- The line ends, and the spaces among them, in front of a cursor. A mark that parts documents
stops, and `none` is answered. -/
def plainBreaks (cursor : Cursor) : Nat → Text → Option Text × Cursor
  | 0, found => (some found, cursor)
  | limit + 1, found =>
    match cursor.peek 0 with
    | some c =>
      if c = ' ' then plainBreaks cursor.next limit found
      else if isBreak c then
        if cursor.next.atDocumentMark then (none, cursor.next)
        else plainBreaks cursor.next limit (found ++ breakText c)
      else (some found, cursor)
    | none => (some found, cursor)

/-- What the gap behind a part of a plain scalar stands for, whether a line ended in it, and the
place behind it. The gap is empty where the scalar cannot go on. -/
def plainGap (cursor : Cursor) : Text × Bool × Cursor :=
  let (spaces, behind) := cursor.span (· == ' ')
  match behind.peek 0 with
  | some c =>
    if isBreak c then
      if behind.next.atDocumentMark then ([], true, behind.next)
      else
        match plainBreaks behind.next (behind.rest.length + 1) [] with
        | (some others, after) => (foldBreaks c others, true, after)
        | (none, after) => ([], true, after)
    else (spaces, false, behind)
  | none => (spaces, false, behind)

/-- The text of a plain scalar, and the place behind it. The parts of the scalar have to stand at or
right of the column `indent`, unless it is in brackets. Also answered: whether the last gap ended a
line. The characters `found` come before, last one first. -/
def plain (inFlow : Bool) (indent : Int) (cursor : Cursor) (gap found : Text) (ended : Bool) :
    Nat → Text × Bool × Cursor
  | 0 => (found.reverse, ended, cursor)
  | limit + 1 =>
    let length := if cursor.peek 0 = some '#' then 0 else plainLength inFlow cursor.rest
    if length = 0 then (found.reverse, ended, cursor)
    else
      let found := (cursor.rest.take length).reverse ++ (gap.reverse ++ found)
      let (gap, ended, after) := plainGap (cursor.skip length)
      if gap.isEmpty || after.peek 0 = some '#' || (!inFlow && after.column < indent) then
        (found.reverse, ended, after)
      else plain inFlow indent after gap found ended limit

def escapes : List (Char × Char) :=
  [('0', '\x00'), ('a', '\x07'), ('b', '\x08'), ('t', '\t'), ('\t', '\t'), ('n', '\n'),
   ('v', '\x0b'), ('f', '\x0c'), ('r', '\r'), ('e', '\x1b'), (' ', ' '), ('"', '"'),
   ('\\', '\\'), ('/', '/'), ('N', '\u0085'), ('_', '\u00A0'), ('L', '\u2028'), ('P', '\u2029')]

def hexLengths : List (Char × Nat) :=
  [('x', 2), ('u', 4), ('U', 8)]

def hexNumber? (figures : Text) : Option Nat :=
  figures.foldlM (fun total c => (Text.hexValue? c).map (16 * total + ·)) 0

def codedChar (figures : Text) : Except Fault Char := do
  let code ← readable (hexNumber? figures)
  if code < 0x110000 then return Char.ofNat code
  else if code < 0x80000000 then throw (.badScalar "chr() arg not in range(0x110000)")
  else throw (.tooLarge "Python int too large to convert to C int")

/-- The line ends inside quotation marks at a cursor, with the blanks among them. A mark that parts
documents is refused. -/
def quotedBreaks (cursor : Cursor) : Nat → Text → Except Fault (Text × Cursor)
  | 0, _ => .error .unreadable
  | limit + 1, found =>
    if cursor.atDocumentMark then .error .unreadable
    else
      let behind := (cursor.span fun c => c == ' ' || c == '\t').2
      match behind.peek 0 with
      | some c =>
        if isBreak c then quotedBreaks behind.next limit (found ++ breakText c)
        else .ok (found, behind)
      | none => .ok (found, behind)

/-- The character that an escape behind a backslash stands for, and the place behind it. -/
def quotedEscape (cursor : Cursor) : Except Fault (Text × Cursor) :=
  match cursor.peek 0 with
  | none => .error .unreadable
  | some c =>
    match escapes.lookup c, hexLengths.lookup c with
    | some char, _ => .ok ([char], cursor.next)
    | none, some length =>
      let figures := cursor.next.rest.take length
      if figures.length < length then .error .unreadable
      else (codedChar figures).map fun char => ([char], cursor.next.skip length)
    | none, none =>
      if isBreak c then quotedBreaks cursor.next (cursor.rest.length + 1) []
      else .error .unreadable

/-- The text of a scalar between the quotation marks `mark`, the first of which is read already. In
single marks only the mark itself is escaped, by writing it twice. The characters `found` come
before, last one first. -/
def quotedText (mark : Char) (cursor : Cursor) (found : Text) :
    Nat → Except Fault (Text × Cursor)
  | 0 => .error .unreadable
  | limit + 1 =>
    match cursor.peek 0 with
    | none => .error .unreadable
    | some c =>
      if c = mark then
        if mark = '\'' ∧ cursor.peek 1 = some '\'' then
          quotedText mark (cursor.skip 2) (mark :: found) limit
        else .ok (found.reverse, cursor.next)
      else if c = '\\' ∧ mark = '"' then
        match quotedEscape cursor.next with
        | .ok (text, after) => quotedText mark after (text.reverse ++ found) limit
        | .error fault => .error fault
      else if c = ' ' ∨ c = '\t' ∨ isBreak c then
        let (blanks, behind) := cursor.span fun c => c == ' ' || c == '\t'
        match behind.peek 0 with
        | none => .error .unreadable
        | some first =>
          if isBreak first then
            match quotedBreaks behind.next (behind.rest.length + 1) [] with
            | .ok (others, after) =>
              quotedText mark after ((foldBreaks first others).reverse ++ found) limit
            | .error fault => .error fault
          else quotedText mark behind (blanks.reverse ++ found) limit
      else quotedText mark cursor.next (c :: found) limit

end Formulary.Yaml
