import Formulary.Binary64.Reading
import Formulary.Text.Hexadecimal

/-!
# Numeric addresses

A host may be given by its number: four decimal numbers with points between them, or eight groups of
hexadecimal digits with colons between them, where two colons stand for as many groups of zeros as
are missing.
-/

namespace Formulary.Http

/-- Whether a text is one of the four numbers of a short address: below 256, without a zero in
front. -/
def isOctet (text : Text) : Bool :=
  !text.isEmpty && text.length ≤ 3 && text.all Char.isDigit &&
    (text.length == 1 || text.head? != some '0') && Binary64.value text < 256

def isShortAddress (text : Text) : Bool :=
  let octets := text.splitOn '.'
  octets.length == 4 && octets.all isOctet

def isGroup (text : Text) : Bool :=
  !text.isEmpty && text.length ≤ 4 && text.all fun c => (Text.hexValue? c).isSome

/-- The parts of a long address between its colons, where a short address at the end counts as two
groups of zeros. -/
def groupsOf (text : Text) : List Text :=
  let parts := text.splitOn ':'
  match parts.getLast? with
  | some last => if isShortAddress last then parts.dropLast ++ [['0'], ['0']] else parts
  | none => parts

/-- Whether groups are those of a long address without a gap, that is, without two colons. -/
def areAllGroups (groups : List Text) : Bool :=
  groups.length == 8 && groups.all isGroup

/-- The parts before and behind the first gap, the empty part among others; a gap at an end leaves
an empty part there as well. -/
def splitGap : List Text → Option (List Text × List Text)
  | [] => none
  | first :: rest =>
    match rest with
    | [] :: behind =>
      if behind.isEmpty then none
      else some (if first.isEmpty then [] else [first], behind)
    | _ => (splitGap rest).map fun (before, behind) => (first :: before, behind)

def areGroupsWithGap (parts : List Text) : Bool :=
  match splitGap parts with
  | none => false
  | some (before, behind) =>
    let behind := if behind == [[]] then [] else behind
    before.length + behind.length < 8 && before.all isGroup && behind.all isGroup

/-- Whether a text is a long address. The name of a zone may stand behind a percent sign. -/
def isLongAddress (text : Text) : Bool :=
  let address := text.takeWhile (· != '%')
  let zone := text.dropWhile (· != '%')
  let hasZone := zone.isEmpty || (zone.length != 1 && !(zone.drop 1).contains '%')
  let parts := groupsOf address
  hasZone && 3 ≤ parts.length && (areAllGroups parts || areGroupsWithGap parts)

end Formulary.Http
