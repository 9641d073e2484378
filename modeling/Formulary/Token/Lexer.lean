import Formulary.Fault

/-!
# Cutting a text into tokens

All blanks are removed first; then each token is the longest piece that the first fitting kind can
take. A character that starts no token stops the cutting, and its position in the text without
blanks is reported.
-/

namespace Formulary.Token

def isOperatorSign (c : Char) : Bool :=
  c == '+' || c == '-' || c == '*' || c == '/' || c == '^'

/-- The first token of a text without blanks, and what follows it. A number is a run of digits,
with a point and a second run if both follow; an identifier is a run of letters. Only ASCII digits
and letters count. -/
def munch : Text → Option (Token × Text)
  | [] => none
  | c :: rest =>
    if c.isDigit then
      let whole := c :: rest.takeWhile Char.isDigit
      match rest.dropWhile Char.isDigit with
      | '.' :: d :: more =>
        if d.isDigit then
          some (⟨.number, whole ++ '.' :: d :: more.takeWhile Char.isDigit⟩,
            more.dropWhile Char.isDigit)
        else
          some (⟨.number, whole⟩, '.' :: d :: more)
      | after => some (⟨.number, whole⟩, after)
    else if c.isAlpha then
      some (⟨.identifier, c :: rest.takeWhile Char.isAlpha⟩, rest.dropWhile Char.isAlpha)
    else if isOperatorSign c then
      some (⟨.operator, [c]⟩, rest)
    else if c == '(' then
      some (⟨.opener, [c]⟩, rest)
    else if c == ')' then
      some (⟨.closer, [c]⟩, rest)
    else
      none

theorem length_dropWhile_le (keep : Char → Bool) (text : Text) :
    (text.dropWhile keep).length ≤ text.length := by
  simpa using (List.dropWhile_suffix keep (l := text)).length_le

/-- Every token takes at least one character. -/
theorem length_lt_of_munch {text rest : Text} {token : Token}
    (taken : munch text = some (token, rest)) : rest.length < text.length := by
  have shorter (keep : Char → Bool) (tail : Text) := length_dropWhile_le keep tail
  fun_cases munch text <;> simp_all [munch] <;> grind

/-- Cut a text without blanks into tokens, of which the first `position` characters are already
cut into the tokens `found`, the last one first. -/
def scan (position : Nat) (found : List Token) (text : Text) : Except Fault (List Token) :=
  match _taken : munch text with
  | some (token, rest) => scan (position + token.text.length) (token :: found) rest
  | none =>
    match text with
    | [] => .ok found.reverse
    | c :: _ => .error (.malformed (.illegalCharacter c position))
termination_by text.length
decreasing_by exact length_lt_of_munch ‹_›

def ofText (text : Text) : Except Fault (List Token) :=
  if text.allBlank then
    .error (.malformed .blankText)
  else do
    let tokens ← scan 0 [] text.squeeze
    if tokens.isEmpty then
      throw (.malformed .noValidTokens)
    else
      return tokens

end Formulary.Token
