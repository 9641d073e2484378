/-!
# Texts and blank characters

A text is the list of its code points, so that positions, order and lengths count code points.
This module says which characters are blank and removes them: at the ends (`trim`) or
everywhere (`squeeze`). Around numbers only the white space of Unicode is passed over, which leaves
out four of the blanks (`trimSpace`).
-/

namespace Formulary

/-- A text is the list of its code points. -/
abbrev Text := List Char

def inRanges (ranges : List (Nat × Nat)) (point : Nat) : Bool :=
  ranges.any fun range => range.1 ≤ point && point ≤ range.2

/-- The blank characters: the controls and separators that Unicode counts as white space,
together with the four information separators U+001C to U+001F. -/
def blankRanges : List (Nat × Nat) :=
  [(0x9, 0xD), (0x1C, 0x20), (0x85, 0x85), (0xA0, 0xA0), (0x1680, 0x1680), (0x2000, 0x200A),
   (0x2028, 0x2029), (0x202F, 0x202F), (0x205F, 0x205F), (0x3000, 0x3000)]

def isBlank (c : Char) : Bool :=
  inRanges blankRanges c.toNat

/-- The information separators, which are blank although Unicode does not count them as white
space. -/
def separatorRanges : List (Nat × Nat) :=
  [(0x1C, 0x1F)]

def isSpace (c : Char) : Bool :=
  isBlank c && !inRanges separatorRanges c.toNat

namespace Text

/-- The text of a value that may be absent; an absent text counts as empty. -/
def ofOption (text : Option Text) : Text :=
  text.getD []

def allBlank (text : Text) : Bool :=
  text.all isBlank

/-- Whether a text comes before another one, or is the same: by the first code point in which they
differ, and a text before its continuations. -/
def le : Text → Text → Bool
  | [], _ => true
  | _ :: _, [] => false
  | c :: rest, d :: others => if c = d then le rest others else c.toNat < d.toNat

def trimBy (strip : Char → Bool) (text : Text) : Text :=
  ((text.dropWhile strip).reverse.dropWhile strip).reverse

def trim (text : Text) : Text :=
  trimBy isBlank text

def trimSpace (text : Text) : Text :=
  trimBy isSpace text

def squeeze (text : Text) : Text :=
  text.filter fun c => !isBlank c

end Text

end Formulary
