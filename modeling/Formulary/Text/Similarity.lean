import Formulary.Text

/-!
# Similar texts

How similar two texts are is told by the blocks they share: the longest common block, and in the
same way the blocks to the left of it and to the right of it. A misspelt name is close to the names
that share enough of their characters with it.
-/

namespace Formulary.Text

structure Block where
  leftStart : Nat
  rightStart : Nat
  length : Nat
  deriving DecidableEq, Repr

def commonLength : Text → Text → Nat
  | c :: left, d :: right => if c = d then commonLength left right + 1 else 0
  | _, _ => 0

/-- The longest block that two texts share. Of several ones it begins earliest in the left text, and
of those earliest in the right one. -/
def longestBlock (left right : Text) : Block :=
  let places :=
    (List.range left.length).flatMap fun i => (List.range right.length).map fun j => (i, j)
  places.foldl (fun best (i, j) =>
    let length := commonLength (left.drop i) (right.drop j)
    if best.length < length then ⟨i, j, length⟩ else best) ⟨0, 0, 0⟩

/-- How many characters of two texts lie in blocks that they share, where the left text has at most
`limit` characters. -/
def sharedLength : Nat → Text → Text → Nat
  | 0, _, _ => 0
  | limit + 1, left, right =>
    let block := longestBlock left right
    if block.length = 0 then 0
    else
      sharedLength limit (left.take block.leftStart) (right.take block.rightStart) +
        block.length +
        sharedLength limit (left.drop (block.leftStart + block.length))
          (right.drop (block.rightStart + block.length))

/-- How similar two texts are: how many of their characters lie in shared blocks, of how many in
all. -/
structure Similarity where
  shared : Nat
  total : Nat
  deriving DecidableEq, Repr

def similarity (word name : Text) : Similarity where
  shared := sharedLength name.length name word
  total := name.length + word.length

namespace Similarity

/-- Whether shared characters are at least three out of ten, that is, six out of ten where those of
both texts are counted. -/
def isClose (similarity : Similarity) : Bool :=
  3 * similarity.total ≤ 10 * similarity.shared

def exceeds (one other : Similarity) : Bool :=
  other.shared * one.total < one.shared * other.total

end Similarity

/-- Whether two texts are so different in length that they cannot be close. -/
def differInLength (word name : Text) : Bool :=
  !(Similarity.mk (min word.length name.length) (word.length + name.length)).isClose

/-- The names that are close to a word, in alphabetical order. Only the three most similar ones are
kept; of equally similar ones the last ones by the alphabet. -/
def closeTo (word : Text) (names : List Text) : List Text :=
  let candidates := names.filter fun name => !differInLength word name
  let close := (candidates.map fun name => (similarity word name, name)).filter fun found =>
    found.1.isClose
  let byRank := close.mergeSort fun one other =>
    one.1.exceeds other.1 || (!other.1.exceeds one.1 && le other.2 one.2)
  ((byRank.take 3).map Prod.snd).mergeSort le

end Formulary.Text
