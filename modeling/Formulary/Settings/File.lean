import Formulary.Settings
import Formulary.Text.Quoted
import Formulary.Yaml

/-!
# Settings from a file

The settings may stand at the top of a file or in a section of their own. An empty file says
nothing, and keys that are no texts are passed over.
-/

namespace Formulary.Settings

inductive LoadFault where
  /-- There is no file of the name. -/
  | missing
  /-- The file is not written in the language of settings files. -/
  | unreadable
  /-- A scalar of the file denotes no value. -/
  | badScalar (complaint : String)
  /-- A number of the file is too great. -/
  | tooLarge (complaint : String)
  /-- The file holds something else than a mapping. -/
  | notMapping
  /-- The section for the server holds something else than a mapping. -/
  | sectionNotMapping
  /-- Some settings are bad. -/
  | invalid (issues : List Issue)
  deriving DecidableEq, Repr

def LoadFault.message? (file : Text) : LoadFault → Option String
  | missing => some ("[Errno 2] No such file or directory: " ++ String.ofList (Text.quoted file))
  | badScalar complaint | tooLarge complaint => some complaint
  | notMapping => some ("config must be a mapping: " ++ String.ofList file)
  | sectionNotMapping =>
    some ("config 'server' section must be a mapping: " ++ String.ofList file)
  | unreadable | invalid _ => none

def layerOf (document : Value) : Except LoadFault Layer :=
  if document.isVoid then .ok []
  else
    match document with
    | .mapping entries =>
      let layer := Value.layer entries
      match layer.lookup "server".toList with
      | none => .ok layer
      | some (.mapping entries) => .ok (Value.layer entries)
      | some _ => .error .sectionNotMapping
    | _ => .error .notMapping

def layerOfText (text : Text) : Except LoadFault Layer :=
  match Yaml.ofText text with
  | .ok document => layerOf document
  | .error .unreadable => .error .unreadable
  | .error (.badScalar complaint) => .error (.badScalar complaint)
  | .error (.tooLarge complaint) => .error (.tooLarge complaint)

def load (file : Option Text) (overrides : Layer) : Except LoadFault Settings := do
  let layer ←
    match file with
    | some text => layerOfText text
    | none => .ok []
  (merge layer overrides).mapError .invalid

/-- The settings of the file of a name, if one is named, with overrides on them. The text of a file
that there is has to be given. -/
def loadNamed (name : Option Text) (find : Text → Option Text) (overrides : Layer) :
    Except LoadFault Settings :=
  match name with
  | none => load none overrides
  | some name =>
    match find name with
    | some text => load (some text) overrides
    | none => .error .missing

end Formulary.Settings
