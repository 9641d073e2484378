import Formulary.Expr.Walk
import Formulary.Rpn
import Formulary.Token.Lexer

/-!
# From a text to its tree

A tree is built from its listing in reverse Polish order with one stack of finished subtrees. A text
is cut into tokens, ordered, and built; each stage has faults of its own.
-/

namespace Formulary.Expr

/-- Build on from the finished subtrees, latest one first. -/
def build : List Token → List Expr → Except Fault Expr
  | [], [tree] => .ok tree
  | [], _ => .error (.malformed .notOneTree)
  | token :: rest, finished =>
    match token.kind with
    | .number | .identifier => build rest (.operand token.text :: finished)
    | .operator =>
      match finished with
      | right :: left :: others => build rest (.operator token.text left right :: others)
      | _ => .error (.malformed .missingOperand)
    | .opener | .closer => .error (.strayParen token.kind)

def ofListing (tokens : List Token) : Except Fault Expr :=
  if tokens.isEmpty then .error (.malformed .noListing) else build tokens []

def ofTokens (tokens : List Token) : Except Fault Expr := do
  let listing ← Rpn.ofInfix tokens
  ofListing listing

def parse (text : Text) : Except Fault Expr := do
  let tokens ← Token.ofText text
  ofTokens tokens

/-- Whether two texts are the same formula up to blanks and superfluous parentheses. -/
def equivalent (left right : Text) : Except Fault Bool := do
  let first ← parse left
  let second ← parse right
  return first.canonical == second.canonical

/-- Whether two nodes count as equal: leaves by their symbols, operators by their canonical texts,
and a leaf and an operator never. -/
def sameNode : Expr → Expr → Bool
  | operand left, operand right => left == right
  | left@(operator ..), right@(operator ..) => left.canonical == right.canonical
  | _, _ => false

end Formulary.Expr
