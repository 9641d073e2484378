import Formulary.Yaml.Token

/-!
# The tree of a settings file

A settings file is one document: scalars, sequences and mappings of nodes. Where a node may be left
out, an empty plain scalar stands in its place. The functions that read on are bounded by a count of
the tokens and calls that are left.
-/

namespace Formulary.Yaml

inductive Node where
  | scalar (text : Text) (isPlain : Bool)
  | sequence (items : List Node)
  | mapping (entries : List (Node × Node))

namespace Node

/-- What stands for a node that is left out. -/
def absent : Node :=
  scalar [] true

/-- The fault of tokens that do not go on as they should: the one of the next token if that is
broken. -/
def unexpected {α : Type} : List Token → Except Fault α
  | .broken fault :: _ => .error fault
  | _ => .error .unreadable

mutual

/-- A node in front of the tokens. Blocks may begin only where `inBlock` is set, and items without a
block of their own only where `bareItems` is. -/
def read (inBlock bareItems : Bool) : Nat → List Token → Except Fault (Node × List Token)
  | 0, _ => .error .unreadable
  | count + 1, tokens =>
    match tokens with
    | .blockItem :: _ => if bareItems then readBareItems count [] tokens else unexpected tokens
    | .scalar text isPlain :: rest => .ok (scalar text isPlain, rest)
    | .flowSequence :: rest => readFlowItems count [] true rest
    | .flowMapping :: rest => readFlowEntries count [] true rest
    | .blockSequence :: rest => if inBlock then readItems count [] rest else unexpected tokens
    | .blockMapping :: rest => if inBlock then readEntries count [] rest else unexpected tokens
    | _ => unexpected tokens

def readItems : Nat → List Node → List Token → Except Fault (Node × List Token)
  | 0, _, _ => .error .unreadable
  | _, found, .blockEnd :: rest => .ok (sequence found.reverse, rest)
  | count + 1, found, .blockItem :: rest =>
    match rest with
    | .blockItem :: _ | .blockEnd :: _ => readItems count (absent :: found) rest
    | _ =>
      match read true false count rest with
      | .ok (item, rest) => readItems count (item :: found) rest
      | .error fault => .error fault
  | _, _, tokens => unexpected tokens

/-- The items of a sequence that stands in a mapping without a block of its own. -/
def readBareItems : Nat → List Node → List Token → Except Fault (Node × List Token)
  | 0, _, _ => .error .unreadable
  | count + 1, found, .blockItem :: rest =>
    match rest with
    | .blockItem :: _ | .blockEnd :: _ | .key :: _ | .value :: _ =>
      readBareItems count (absent :: found) rest
    | _ =>
      match read true false count rest with
      | .ok (item, rest) => readBareItems count (item :: found) rest
      | .error fault => .error fault
  | _, found, rest => .ok (sequence found.reverse, rest)

def readPart : Nat → List Token → Except Fault (Node × List Token)
  | 0, _ => .error .unreadable
  | count + 1, tokens =>
    match tokens with
    | .key :: _ | .value :: _ | .blockEnd :: _ => .ok (absent, tokens)
    | _ => read true true count tokens

def readEntries : Nat → List (Node × Node) → List Token → Except Fault (Node × List Token)
  | 0, _, _ => .error .unreadable
  | count + 1, found, tokens =>
    match tokens with
    | .blockEnd :: rest => .ok (mapping found.reverse, rest)
    | .key :: rest =>
      match readPart count rest with
      | .ok (key, .value :: rest) =>
        match readPart count rest with
        | .ok (value, rest) => readEntries count ((key, value) :: found) rest
        | .error fault => .error fault
      | .ok (key, rest) => readEntries count ((key, absent) :: found) rest
      | .error fault => .error fault
    | _ => unexpected tokens

def readFlowPart : Nat → List Token → Except Fault (Node × List Token)
  | 0, _ => .error .unreadable
  | count + 1, tokens =>
    match tokens with
    | .value :: _ | .flowItem :: _ | .flowSequenceEnd :: _ | .flowMappingEnd :: _ =>
      .ok (absent, tokens)
    | _ => read false false count tokens

def readFlowPair : Nat → List Token → Except Fault ((Node × Node) × List Token)
  | 0, _ => .error .unreadable
  | count + 1, tokens =>
    match readFlowPart count tokens with
    | .ok (key, .value :: rest) =>
      match readFlowPart count rest with
      | .ok (value, rest) => .ok ((key, value), rest)
      | .error fault => .error fault
    | .ok (key, rest) => .ok ((key, absent), rest)
    | .error fault => .error fault

def readFlowItems : Nat → List Node → Bool → List Token → Except Fault (Node × List Token)
  | 0, _, _, _ => .error .unreadable
  | _, found, _, .flowSequenceEnd :: rest => .ok (sequence found.reverse, rest)
  | count + 1, found, false, .flowItem :: rest => readFlowItems count found true rest
  | count + 1, found, true, .key :: rest =>
    match readFlowPair count rest with
    | .ok (entry, rest) => readFlowItems count (mapping [entry] :: found) false rest
    | .error fault => .error fault
  | count + 1, found, true, tokens =>
    match read false false count tokens with
    | .ok (item, rest) => readFlowItems count (item :: found) false rest
    | .error fault => .error fault
  | _, _, _, tokens => unexpected tokens

def readFlowEntries :
    Nat → List (Node × Node) → Bool → List Token → Except Fault (Node × List Token)
  | 0, _, _, _ => .error .unreadable
  | _, found, _, .flowMappingEnd :: rest => .ok (mapping found.reverse, rest)
  | count + 1, found, false, .flowItem :: rest => readFlowEntries count found true rest
  | count + 1, found, true, .key :: rest =>
    match readFlowPair count rest with
    | .ok (entry, rest) => readFlowEntries count (entry :: found) false rest
    | .error fault => .error fault
  | count + 1, found, true, tokens =>
    match read false false count tokens with
    | .ok (key, rest) => readFlowEntries count ((key, absent) :: found) false rest
    | .error fault => .error fault
  | _, _, _, tokens => unexpected tokens

end

/-- A node, if nothing but marks of the end of its document follow. -/
def endDocument (node : Node) : List Token → Except Fault Node
  | [] => .ok node
  | .documentEnd :: rest => endDocument node rest
  | tokens => unexpected tokens

/-- The node of a document without marks around it. -/
def ofContent (tokens : List Token) : Except Fault Node :=
  match tokens with
  | [] | .documentEnd :: _ => endDocument absent tokens
  | _ =>
    match read true false (2 * tokens.length + 2) tokens with
    | .ok (node, rest) => endDocument node rest
    | .error fault => .error fault

/-- The node of the only document of a file; a file without one has none. -/
def ofTokens (tokens : List Token) : Except Fault Node :=
  match tokens with
  | .documentStart :: rest => ofContent rest
  | .documentEnd :: _ => .error .unreadable
  | _ => ofContent tokens

end Node

end Formulary.Yaml
