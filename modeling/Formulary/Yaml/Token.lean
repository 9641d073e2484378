import Formulary.Yaml.ScalarText

/-!
# Tokens of a settings file

Blocks of a settings file are told by their columns. Reading tokens therefore keeps a stack of the
columns of the open blocks and writes out where blocks begin and end, so that what comes after need
not look at columns. A key is only recognised by the colon behind it; the place in front of it is
kept until then, and the tokens that begin a mapping or mark a key are put there later.

Directives, anchors, aliases, tags and block scalars do not belong to settings files and are
refused.
-/

namespace Formulary.Yaml

/-- A token. Sequences and mappings in blocks begin with a token and share the one for their end. -/
inductive Token where
  /-- What stands in place of a token that cannot be read, and of all that would come behind it. A
  file is refused for it only if the token is needed. -/
  | broken (fault : Fault)
  | blockSequence
  | blockMapping
  | blockEnd
  | flowSequence
  | flowSequenceEnd
  | flowMapping
  | flowMappingEnd
  | blockItem
  | flowItem
  | key
  | value
  | scalar (text : Text) (isPlain : Bool)
  | documentStart
  | documentEnd
  deriving DecidableEq, Repr

/-- A place where a key may have begun: the number of tokens in front of it, where it is, and
whether it has to be a key because the block allows nothing else there. -/
structure KeyPlace where
  tokensBefore : Nat
  index : Nat
  line : Nat
  column : Nat
  required : Bool

/-- Whether no key can begin at a place any more once a cursor is reached: a key has to stand on one
line, with its colon near. -/
def KeyPlace.isStale (place : KeyPlace) (cursor : Cursor) : Bool :=
  place.line != cursor.line || 1024 < cursor.index - place.index

structure Reading where
  cursor : Cursor
  /-- The tokens so far, last one first. -/
  tokens : List Token
  /-- The column of the innermost open block, or -1. -/
  indent : Int
  /-- The columns of the blocks around it. -/
  outerIndents : List Int
  /-- How many brackets are open. -/
  depth : Nat
  /-- Whether a key may begin at the cursor. -/
  keyAllowed : Bool
  /-- Where keys may have begun, by the number of open brackets there. -/
  keyPlaces : List (Nat × KeyPlace)

namespace Reading

def start (text : Text) : Reading where
  cursor := Cursor.start text
  tokens := []
  indent := -1
  outerIndents := []
  depth := 0
  keyAllowed := true
  keyPlaces := []

def emit (state : Reading) (token : Token) : Reading :=
  { state with tokens := token :: state.tokens }

/-- A token put where only `tokensBefore` tokens come before it. -/
def emitAt (state : Reading) (tokensBefore : Nat) (token : Token) : Reading :=
  { state with
    tokens := state.tokens.insertIdx (state.tokens.length - tokensBefore) token }

def skip (state : Reading) (count : Nat) : Reading :=
  { state with cursor := state.cursor.skip count }

/-- Close the blocks that stand right of a column; brackets keep blocks open. -/
def closeBlocks (state : Reading) (column : Int) : List Int → Reading
  | [] => state
  | outer :: rest =>
    if state.depth = 0 ∧ column < state.indent then
      closeBlocks { state with
        tokens := .blockEnd :: state.tokens, indent := outer, outerIndents := rest } column rest
    else state

/-- Open a block at a column, if none is open there; and whether one was opened. -/
def openBlock (state : Reading) (column : Int) : Bool × Reading :=
  if state.indent < column then
    (true, { state with indent := column, outerIndents := state.indent :: state.outerIndents })
  else (false, state)

/-- Forget the places where no key can begin any more. Where a key is required, that is refused. -/
def dropStaleKeys (state : Reading) : Except Fault Reading :=
  let isStale (entry : Nat × KeyPlace) : Bool := entry.2.isStale state.cursor
  if state.keyPlaces.any fun entry => isStale entry && entry.2.required then .error .unreadable
  else .ok { state with keyPlaces := state.keyPlaces.filter (!isStale ·) }

/-- The tokens that are certain: those in front of the first place where a key may still turn out to
have begun. -/
def certain (state : Reading) : List Token :=
  let pending := state.keyPlaces.filter fun entry => !entry.2.isStale state.cursor
  let count := pending.foldl (fun count entry => min count entry.2.tokensBefore) state.tokens.length
  state.tokens.reverse.take count

/-- Forget where a key may have begun inside the present brackets, unless one is required there. -/
def dropKey (state : Reading) : Except Fault Reading :=
  match state.keyPlaces.lookup state.depth with
  | some place =>
    if place.required then .error .unreadable
    else
      .ok { state with keyPlaces := state.keyPlaces.filter fun entry => entry.1 != state.depth }
  | none => .ok state

def markKey (state : Reading) : Except Fault Reading :=
  if state.keyAllowed then do
    let required := state.depth == 0 && state.indent == state.cursor.column
    let place : KeyPlace :=
      ⟨state.tokens.length, state.cursor.index, state.cursor.line, state.cursor.column, required⟩
    let state ← state.dropKey
    return { state with keyPlaces := (state.depth, place) :: state.keyPlaces }
  else .ok state

def readDocumentMark (state : Reading) (token : Token) : Except Fault Reading := do
  let state ← (state.closeBlocks (-1) state.outerIndents).dropKey
  return ({ state with keyAllowed := false }.skip 3).emit token

def readOpening (state : Reading) (token : Token) : Except Fault Reading := do
  let state ← state.markKey
  return ({ state with depth := state.depth + 1, keyAllowed := true }.skip 1).emit token

def readClosing (state : Reading) (token : Token) : Except Fault Reading := do
  let state ← state.dropKey
  return ({ state with depth := state.depth - 1, keyAllowed := false }.skip 1).emit token

def readComma (state : Reading) : Except Fault Reading := do
  let state ← { state with keyAllowed := true }.dropKey
  return (state.skip 1).emit .flowItem

/-- A token that begins an item or an explicit key. In a block it needs a place where a key may
begin, and opens a block of its kind. -/
def openAtCursor (state : Reading) (block : Token) : Except Fault Reading :=
  if state.depth = 0 then
    if state.keyAllowed then
      match state.openBlock state.cursor.column with
      | (true, state) => .ok (state.emit block)
      | (false, state) => .ok state
    else .error .unreadable
  else .ok state

def readItem (state : Reading) : Except Fault Reading := do
  let state ← state.openAtCursor .blockSequence
  let state ← { state with keyAllowed := true }.dropKey
  return (state.skip 1).emit .blockItem

def readKeyMark (state : Reading) : Except Fault Reading := do
  let state ← state.openAtCursor .blockMapping
  let state ← { state with keyAllowed := state.depth == 0 }.dropKey
  return (state.skip 1).emit .key

/-- The colon behind a key. If a key may have begun, it did. -/
def readColon (state : Reading) : Except Fault Reading :=
  match state.keyPlaces.lookup state.depth with
  | some place =>
    let state := { state with
      keyPlaces := state.keyPlaces.filter fun entry => entry.1 != state.depth
      keyAllowed := false }
    let state := state.emitAt place.tokensBefore .key
    let state :=
      if state.depth = 0 then
        match state.openBlock place.column with
        | (true, state) => state.emitAt place.tokensBefore .blockMapping
        | (false, state) => state
      else state
    .ok ((state.skip 1).emit .value)
  | none => do
    let state ← state.openAtCursor .blockMapping
    let state ← { state with keyAllowed := state.depth == 0 }.dropKey
    return (state.skip 1).emit .value

def readQuotedScalar (state : Reading) (mark : Char) : Except Fault Reading := do
  let state ← state.markKey
  let (text, after) ←
    quotedText mark state.cursor.next [] (state.cursor.rest.length + 1)
  return { state with cursor := after, keyAllowed := false }.emit (.scalar text false)

/-- A plain scalar. A key may begin behind it if a line ended. -/
def readPlainScalar (state : Reading) : Except Fault Reading := do
  let state ← state.markKey
  let (text, ended, after) :=
    plain (0 < state.depth) (state.indent + 1) state.cursor [] [] false
      (state.cursor.rest.length + 1)
  return { state with cursor := after, keyAllowed := ended }.emit (.scalar text true)

/-- Whether a plain scalar can begin with a character in front of another one. -/
def beginsPlain (inFlow : Bool) (c : Char) (following : Option Char) : Bool :=
  !(isGap (some c) || ("-?:,[]".toList ++ ['\x7b', '\x7d', '#', '&', '*', '!', '|', '>', '\'', '"',
      '%', '@', '\x60']).contains c) ||
    (!isGap following && (c == '-' || (!inFlow && (c == '?' || c == ':'))))

def readToken (state : Reading) (c : Char) : Except Fault Reading :=
  let following := state.cursor.peek 1
  let inFlow : Bool := 0 < state.depth
  let atStart := state.cursor.column = 0
  if atStart ∧ c = '%' then .error .unreadable
  else if atStart ∧ state.cursor.atMark '-' then state.readDocumentMark .documentStart
  else if atStart ∧ state.cursor.atMark '.' then state.readDocumentMark .documentEnd
  else if c = '[' then state.readOpening .flowSequence
  else if c = '\x7b' then state.readOpening .flowMapping
  else if c = ']' then state.readClosing .flowSequenceEnd
  else if c = '\x7d' then state.readClosing .flowMappingEnd
  else if c = ',' then state.readComma
  else if c = '-' ∧ isGap following then state.readItem
  else if c = '?' ∧ (inFlow ∨ isGap following) then state.readKeyMark
  else if c = ':' ∧ (inFlow ∨ isGap following) then state.readColon
  else if c = '\'' ∨ c = '"' then state.readQuotedScalar c
  else if beginsPlain inFlow c following then state.readPlainScalar
  else .error .unreadable

/-- Read on over spaces and comments and the next token, and whether there is one. At the end of the
text all blocks are closed. -/
def advance (state : Reading) : Except Fault (Reading × Bool) := do
  let (cursor, ended) := state.cursor.skipSpace (state.cursor.rest.length + 1) false
  let state := { state with
    cursor
    keyAllowed := state.keyAllowed || (ended && state.depth == 0) }
  let state ← state.dropStaleKeys
  let state := state.closeBlocks state.cursor.column state.outerIndents
  match state.cursor.peek 0 with
  | some c => return (← state.readToken c, true)
  | none => return (← (state.closeBlocks (-1) state.outerIndents).dropKey, false)

/-- The tokens up to the end of the text, or up to the first one that cannot be read. -/
def readAll : Nat → Reading → List Token
  | 0, state => state.certain ++ [.broken .unreadable]
  | limit + 1, state =>
    match state.advance with
    | .error fault => state.certain ++ [.broken fault]
    | .ok (state, true) => readAll limit state
    | .ok (state, false) => state.tokens.reverse

end Reading

/-- Files are read in pieces of this many characters, two of them at first. -/
def pieceLength : Nat := 4096

def pieceStart (index : Nat) : Nat :=
  if index < 2 * pieceLength then 0 else index / pieceLength * pieceLength

def Token.ofAllowed (text : Text) : List Token :=
  Reading.readAll (text.length + 2) (Reading.start text)

/-- The tokens of a settings file. A piece with a character that is not allowed cannot be read. -/
def Token.ofText (text : Text) : List Token :=
  match text.findIdx? (!isAllowed ·) with
  | none => ofAllowed text
  | some index => ofAllowed (text.take (pieceStart index)) ++ [.broken .unreadable]

end Formulary.Yaml
