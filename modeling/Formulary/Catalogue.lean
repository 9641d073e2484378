import Formulary.Archive
import Formulary.Expr.Evaluation
import Formulary.Expr.Parse

/-!
# The catalogue of formulas

The catalogue stores each formula once: a text whose canonical text is on record gets the id of the
first such text. It evaluates formulas by id, reading the recorded text anew.

Storing takes two steps of the archive, a search and, if it finds nothing, an insertion. Between the
two others may use the archive, so a store that is under way is a value of its own, `Store`.
-/

namespace Formulary

structure Submission where
  source : Text
  kinds : List Token.Kind
  canonical : Text
  deriving DecidableEq, Repr

namespace Submission

/-- What a text is put on record as: without the blanks around it, with the kinds of its tokens in
reverse Polish order and the canonical text of its tree. -/
def ofText (text : Text) : Except Fault Submission :=
  if text.allBlank then
    .error (.badArgument .noFormula)
  else do
    let source := text.trim
    let tokens ← Token.ofText source
    let listing ← Rpn.ofInfix tokens
    let tree ← Expr.ofListing listing
    return ⟨source, listing.map Token.kind, tree.canonical⟩

def draft (submission : Submission) : Draft :=
  .ofParts submission.source submission.kinds submission.canonical

end Submission

namespace Catalogue

/-- A store that is under way: about to search for its canonical text, about to insert because the
search found nothing, or answered. -/
inductive Store where
  | searching (submission : Submission)
  | inserting (submission : Submission)
  | answered (result : Except Fault Nat)

namespace Store

def ofText (text : Text) : Store :=
  match Submission.ofText text with
  | .ok submission => .searching submission
  | .error fault => .answered (.error fault)

def step (store : Store) (archive : Archive) : Store × Archive :=
  match store with
  | searching submission =>
    match archive.findByCanonical submission.canonical with
    | .ok (some entry) => (answered (.ok entry.id), archive)
    | .ok none => (inserting submission, archive)
    | .error fault => (answered (.error fault), archive)
  | inserting submission =>
    match archive.insertIfAbsent submission.draft with
    | (.ok (entry, _), archive) => (answered (.ok entry.id), archive)
    | (.error (.fault fault), archive) => (answered (.error fault), archive)
    | (.error (.issues _), archive) => (answered (.error .outage), archive)
  | answered result => (answered result, archive)

def result : Store → Except Fault Nat
  | answered result => result
  | _ => .error .outage

end Store

def store (text : Text) (archive : Archive) : Except Fault Nat × Archive :=
  let (pending, archive) := (Store.ofText text).step archive
  let (finished, archive) := pending.step archive
  (finished.result, archive)

def evaluate (id : Option Int) (environment : Option Environment) (archive : Archive) :
    Except Fault Float :=
  match id, environment with
  | none, _ => .error (.badArgument .noFormulaId)
  | some _, none => .error (.badArgument .noEnvironment)
  | some id, some environment =>
    match archive.findById id with
    | none => .error (.notFound id)
    | some entry => do
      let tree ← Expr.parse entry.source
      tree.evaluate environment

inductive Command where
  | store (text : Option Text)
  | evaluate (id : Option Int) (environment : Option Environment)
  | all
  | summaries
  | entry (id : Option Int)
  | clear

inductive Reply where
  | id (id : Nat)
  | value (result : Float)
  | all (entries : List Entry)
  | summaries (entries : List (Nat × Text))
  | archive (reply : Archive.Reply)
  | failed (fault : Fault)

def summaries (archive : Archive) : List (Nat × Text) :=
  archive.entries.map fun entry => (entry.id, entry.source)

def perform (command : Command) (archive : Archive) : Reply × Archive :=
  match command with
  | .store text =>
    match store (Text.ofOption text) archive with
    | (.ok id, archive) => (.id id, archive)
    | (.error fault, archive) => (.failed fault, archive)
  | .evaluate id environment =>
    match evaluate id environment archive with
    | .ok result => (.value result, archive)
    | .error fault => (.failed fault, archive)
  | .all => (.all archive.entries, archive)
  | .summaries => (.summaries (summaries archive), archive)
  | .entry id => (.archive (archive.askById id), archive)
  | .clear => (.archive .done, archive.clear)

def run : List Command → Archive → List (Reply × Archive) :=
  Run.trace perform

end Catalogue

end Formulary
