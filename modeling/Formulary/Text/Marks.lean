import Formulary.Text

/-!
# Marks inside numbers

Long numbers may be parted by the mark `_`. This module takes the marks out of a text, either all of
them or only where each one stands alone inside the text.
-/

namespace Formulary.Text

def dropMarks (text : Text) : Text :=
  text.filter (· != '_')

/-- Whether no mark of a text comes right behind another one. -/
def marksStandAlone : Text → Bool
  | [] => true
  | [_] => true
  | c :: d :: rest => !(c == '_' && d == '_') && marksStandAlone (d :: rest)

/-- A text without the marks in it, provided that it has marks and that each of them stands alone
between two other characters. -/
def joinMarks? (text : Text) : Option Text :=
  if text.contains '_' && text.head? != some '_' && text.getLast? != some '_' &&
      marksStandAlone text then
    some (dropMarks text)
  else none

end Formulary.Text
