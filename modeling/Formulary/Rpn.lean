import Formulary.Fault

/-!
# Reverse Polish order

In reverse Polish order an operator stands behind its two operands, so no parentheses are needed.
`Rpn.ofInfix` reorders infix tokens with one stack of operators and openers that wait for their
right operand or their closer. Only openers, closers and operators are told apart; whether operands
and operators alternate is checked when a tree is built.
-/

namespace Formulary.Rpn

def precedence (operator : Text) : Except Fault Nat :=
  match precedence? operator with
  | some strength => .ok strength
  | none => .error (.unknownOperator operator)

/-- Whether the waiting operator `top` is applied before `incoming`: it binds tighter, or equally
tightly and the left one of the two goes first. -/
def goesFirst (top incoming : Text) : Except Fault Bool := do
  let waiting ← precedence top
  let arriving ← precedence incoming
  return arriving < waiting || (waiting == arriving && isLeftAssociative incoming)

/-- Write out the waiting operators that go before `incoming`. A pair holds the stack, top first,
and the tokens written so far, last one first. -/
def release (incoming : Text) : List Token → List Token → Except Fault (List Token × List Token)
  | [], written => .ok ([], written)
  | top :: stack, written =>
    if top.kind = .operator then
      match goesFirst top.text incoming with
      | .ok true => release incoming stack (top :: written)
      | .ok false => .ok (top :: stack, written)
      | .error fault => .error fault
    else
      .ok (top :: stack, written)

/-- Write out the waiting operators up to the nearest opener, and drop the opener. -/
def close : List Token → List Token → Except Fault (List Token × List Token)
  | [], _ => .error (.malformed .missingOpener)
  | top :: stack, written =>
    if top.kind = .opener then .ok (stack, written) else close stack (top :: written)

/-- Write out all that waits at the end, where no opener may be left. -/
def drain : List Token → List Token → Except Fault (List Token)
  | [], written => .ok written.reverse
  | top :: stack, written =>
    if top.kind.isParen then .error (.malformed .missingCloser) else drain stack (top :: written)

def arrange : List Token → List Token → List Token → Except Fault (List Token)
  | [], stack, written => drain stack written
  | token :: rest, stack, written =>
    match token.kind with
    | .number | .identifier => arrange rest stack (token :: written)
    | .opener => arrange rest (token :: stack) written
    | .operator =>
      match release token.text stack written with
      | .ok (stack, written) => arrange rest (token :: stack) written
      | .error fault => .error fault
    | .closer =>
      match close stack written with
      | .ok (stack, written) => arrange rest stack written
      | .error fault => .error fault

/-- The tokens of an infix formula in reverse Polish order, without its parentheses. -/
def ofInfix (tokens : List Token) : Except Fault (List Token) :=
  if tokens.isEmpty then .error (.malformed .noTokens) else arrange tokens [] []

end Formulary.Rpn
