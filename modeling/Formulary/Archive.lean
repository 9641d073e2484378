import Formulary.Issue
import Formulary.Fault
import Formulary.Run

/-!
# The archive of formulas

The archive keeps entries under ids and finds them again by id or by canonical text. Ids count up
from one and are never given twice: not after a draft is rejected, nor after the archive is cleared.
Of several entries with one canonical text, the first one is found by it.
-/

namespace Formulary

/-- A formula on record: its id, its source text, the kinds of its tokens in reverse Polish order
and its canonical text. -/
structure Entry where
  id : Nat
  source : Text
  kinds : List Token.Kind
  canonical : Text
  deriving DecidableEq, Repr

/-- What a caller wants to have on record. A part that is no text, or no kind of token, is
absent. -/
structure Draft where
  source : Option Text
  kinds : List (Option Token.Kind)
  canonical : Option Text
  deriving DecidableEq, Repr

namespace Draft

def ofParts (source : Text) (kinds : List Token.Kind) (canonical : Text) : Draft where
  source := some source
  kinds := kinds.map some
  canonical := some canonical

/-- The issues with kinds, the first of which stands at `index`. -/
def kindIssues (index : Nat) : List (Option Token.Kind) → List Issue
  | [] => []
  | some _ :: rest => kindIssues (index + 1) rest
  | none :: rest =>
    ⟨[.field "postfix".toList, .item index], .notTokenKind⟩ :: kindIssues (index + 1) rest

def issues (draft : Draft) : List Issue :=
  let sourceIssues := if draft.source.isNone then [Issue.ofField "infix" .notText] else []
  let canonicalIssues := if draft.canonical.isNone then [Issue.ofField "ast_hash" .notText] else []
  sourceIssues ++ kindIssues 0 draft.kinds ++ canonicalIssues

/-- The entry that a draft makes under an id, or the issues with it. -/
def toEntry (draft : Draft) (id : Nat) : Except (List Issue) Entry :=
  match draft.source, draft.kinds.mapM (fun kind => kind), draft.canonical with
  | some source, some kinds, some canonical => .ok ⟨id, source, kinds, canonical⟩
  | _, _, _ => .error draft.issues

end Draft

/-- The entries by id, in the order in which they came, the id of the first entry of each canonical
text, and the next id. -/
structure Archive where
  records : List (Nat × Entry)
  index : List (Text × Nat)
  nextId : Nat

namespace Archive

def empty : Archive where
  records := []
  index := []
  nextId := 1

/-- The index with an id for a canonical text, unless the text has one already. -/
def indexFirst (canonical : Text) (id : Nat) (index : List (Text × Nat)) : List (Text × Nat) :=
  match index.lookup canonical with
  | some _ => index
  | none => (canonical, id) :: index

/-- Put a draft on record under the next id. A rejected draft uses up its id. -/
def insert (draft : Draft) (archive : Archive) : Except (List Issue) Entry × Archive :=
  let id := archive.nextId
  match draft.toEntry id with
  | .ok entry =>
    (.ok entry,
      { records := archive.records ++ [(id, entry)]
        index := indexFirst entry.canonical id archive.index
        nextId := id + 1 })
  | .error issues => (.error issues, { archive with nextId := id + 1 })

def findById (id : Int) (archive : Archive) : Option Entry :=
  match id with
  | .ofNat id => archive.records.lookup id
  | .negSucc _ => none

/-- The entry that an id of the index leads to. -/
def recordOf (id : Nat) (archive : Archive) : Except Fault Entry :=
  match archive.records.lookup id with
  | some entry => .ok entry
  | none => .error .outage

/-- The first entry with a canonical text. -/
def findByCanonical (canonical : Text) (archive : Archive) : Except Fault (Option Entry) :=
  match archive.index.lookup canonical with
  | some id => (archive.recordOf id).map some
  | none => .ok none

/-- A canonical text that is no text is found nowhere. -/
def search (canonical : Option Text) (archive : Archive) : Except Fault (Option Entry) :=
  match canonical with
  | some canonical => archive.findByCanonical canonical
  | none => .ok none

inductive Refusal where
  | issues (issues : List Issue)
  | fault (fault : Fault)

/-- The entry with the canonical text of a draft, which is put on record only if there is none; and
whether it was. -/
def insertIfAbsent (draft : Draft) (archive : Archive) :
    Except Refusal (Entry × Bool) × Archive :=
  match archive.search draft.canonical with
  | .ok (some entry) => (.ok (entry, false), archive)
  | .ok none =>
    match archive.insert draft with
    | (.ok entry, archive) => (.ok (entry, true), archive)
    | (.error issues, archive) => (.error (.issues issues), archive)
  | .error fault => (.error (.fault fault), archive)

/-- All entries by ascending id. -/
def entries (archive : Archive) : List Entry :=
  archive.records.map Prod.snd

def size (archive : Archive) : Nat :=
  archive.records.length

/-- Remove all entries; the ids go on counting. -/
def clear (archive : Archive) : Archive :=
  { archive with records := [], index := [] }

inductive Command where
  | insert (draft : Draft)
  | insertIfAbsent (draft : Draft)
  | findByCanonical (canonical : Option Text)
  | findById (id : Option Int)
  | entries
  | size
  | clear
  /-- Give the entry with an id another source text. -/
  | revise (id : Option Int)

inductive Reply where
  | id (id : Nat)
  | created (entry : Entry) (isNew : Bool)
  | entry (found : Option Entry)
  | entries (all : List Entry)
  | count (size : Nat)
  | done
  | rejected (issues : List Issue)
  | failed (fault : Fault)

def askById (id : Option Int) (archive : Archive) : Reply :=
  match id with
  | some id => .entry (archive.findById id)
  | none => .failed (.badArgument .noEntryId)

def perform (command : Command) (archive : Archive) : Reply × Archive :=
  match command with
  | .insert draft =>
    match archive.insert draft with
    | (.ok entry, archive) => (.id entry.id, archive)
    | (.error issues, archive) => (.rejected issues, archive)
  | .insertIfAbsent draft =>
    match archive.insertIfAbsent draft with
    | (.ok (entry, isNew), archive) => (.created entry isNew, archive)
    | (.error (.issues issues), archive) => (.rejected issues, archive)
    | (.error (.fault fault), archive) => (.failed fault, archive)
  | .findByCanonical canonical =>
    match archive.search canonical with
    | .ok found => (.entry found, archive)
    | .error fault => (.failed fault, archive)
  | .findById id => (archive.askById id, archive)
  | .entries => (.entries archive.entries, archive)
  | .size => (.count archive.size, archive)
  | .clear => (.done, archive.clear)
  | .revise id =>
    match archive.askById id with
    | .entry (some _) => (.rejected [Issue.ofField "infix" .frozen], archive)
    | other => (other, archive)

/-- Carry out commands one after the other; each reply comes with the archive behind it. -/
def run : List Command → Archive → List (Reply × Archive) :=
  Run.trace perform

end Archive

end Formulary
