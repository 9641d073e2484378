import Formulary.Yaml.Node
import Formulary.Yaml.Scalar

/-!
# What a settings file holds

The nodes of a settings file become its content: plain scalars denote values, and the mappings that
a mapping merges into itself are spread among its entries. The value of a content is only looked for
where it has no fault. Of several faults the outermost one counts, and of those at one depth the
first one.
-/

namespace Formulary.Yaml

/-- The content of a node. A scalar may denote no value, and what is to be merged into a mapping may
be no mapping. -/
inductive Content where
  | scalar (denoted : Except Fault Value)
  | sequence (items : List Content)
  | mapping (entries : List (Content × Content))
  | badMerge

namespace Content

def entries? : Content → Option (List (Content × Content))
  | mapping entries => some entries
  | _ => none

/-- The entries that a content brings to a mapping it is merged into: those of a mapping, or those
of a sequence of mappings, the last one first. -/
def mergedEntries? : Content → Option (List (Content × Content))
  | mapping entries => some entries
  | sequence items => (items.mapM entries?).map fun groups => groups.reverse.flatten
  | scalar _ | badMerge => none

/-- The mapping of merged and of own entries. The merged ones come first, so that the own ones
override them. -/
def ofEntries (merged : Option (List (Content × Content))) (own : List (Content × Content)) :
    Content :=
  match merged with
  | some merged => mapping (merged ++ own)
  | none => badMerge

def isMergeSign : Node → Bool
  | .scalar ['<', '<'] true => true
  | _ => false

/-- Whether a node is the sign for a default value, which is a text where it is a key. -/
def isDefaultSign : Node → Bool
  | .scalar ['='] true => true
  | _ => false

mutual

def ofNode : Node → Content
  | .scalar text isPlain => scalar (if isPlain then denote text else .ok (.text text))
  | .sequence items => sequence (ofItems items)
  | .mapping entries => ofEntries (mergesOf entries) (ownEntriesOf entries)

def ofItems : List Node → List Content
  | [] => []
  | node :: rest => ofNode node :: ofItems rest

def mergesOf : List (Node × Node) → Option (List (Content × Content))
  | [] => some []
  | entry :: rest =>
    if isMergeSign entry.1 then
      match (ofNode entry.2).mergedEntries?, mergesOf rest with
      | some merged, some others => some (merged ++ others)
      | _, _ => none
    else mergesOf rest

def ownEntriesOf : List (Node × Node) → List (Content × Content)
  | [] => []
  | entry :: rest =>
    if isMergeSign entry.1 then ownEntriesOf rest
    else
      let key := if isDefaultSign entry.1 then scalar (.ok (.text ['='])) else ofNode entry.1
      (key, ofNode entry.2) :: ownEntriesOf rest

end

def scalarFault? : Content → Option Fault
  | scalar (.error fault) => some fault
  | _ => none

/-- The fault of a key, which has to be a scalar. -/
def keyFault? : Content → Option Fault
  | scalar (.ok _) => none
  | scalar (.error fault) => some fault
  | sequence _ | mapping _ | badMerge => some .unreadable

/-- The fault of an entry that shows without looking into its value. -/
def entryFault? (entry : Content × Content) : Option Fault :=
  (keyFault? entry.1).or (scalarFault? entry.2)

/-- The first faults at each depth, where those of the one list come first. -/
def mergeFaults : List (Option Fault) → List (Option Fault) → List (Option Fault)
  | [], others => others
  | faults, [] => faults
  | fault :: faults, other :: others => fault.or other :: mergeFaults faults others

mutual

/-- The first fault among the parts of a content at each depth. -/
def faults : Content → List (Option Fault)
  | scalar _ => []
  | sequence items => items.findSome? scalarFault? :: itemFaults items
  | mapping entries => entries.findSome? entryFault? :: entryFaults entries
  | badMerge => [some .unreadable]

def itemFaults : List Content → List (Option Fault)
  | [] => []
  | item :: rest => mergeFaults (faults item) (itemFaults rest)

def entryFaults : List (Content × Content) → List (Option Fault)
  | [] => []
  | entry :: rest => mergeFaults (faults entry.2) (entryFaults rest)

end

def fault? (content : Content) : Option Fault :=
  (scalarFault? content).or (content.faults.findSome? id)

mutual

/-- The value of a content without faults. Of two entries with one key the last one counts. -/
def value : Content → Value
  | scalar (.ok value) => value
  | scalar (.error _) | badMerge => .null
  | sequence items => .list (itemValues items)
  | mapping entries => .mapping (entryValues [] entries)

def itemValues : List Content → List Value
  | [] => []
  | item :: rest => item.value :: itemValues rest

def entryValues (found : List (Value × Value)) :
    List (Content × Content) → List (Value × Value)
  | [] => found
  | entry :: rest => entryValues (Value.setEntry entry.1.value entry.2.value found) rest

end

end Content

end Formulary.Yaml
