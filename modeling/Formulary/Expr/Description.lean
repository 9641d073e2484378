import Formulary.Expr.Walk
import Formulary.Json
import Formulary.Text.Quoted

/-!
# Descriptions of trees

A tree is described in full by nested records: a leaf by its symbol, an operator by its sign and the
descriptions of its operands. In a message it is shown by its canonical text.
-/

namespace Formulary.Expr

def describeLeaf (symbol : Text) : Json :=
  .object [("kind", .ofString "operand"), ("symbol", .string symbol)]

def describeNode (sign : Text) (left right : Json) : Json :=
  .object [("kind", .ofString "operator"), ("op", .string sign), ("left", left), ("right", right)]

def describe (tree : Expr) : Json :=
  walk (m := Id) .null describeLeaf (fun sign _ _ => describeNode sign) tree

/-- How a tree is shown in a message. -/
def display : Expr → Text
  | operand symbol => "Operand(symbol=".toList ++ Text.quoted symbol ++ [')']
  | tree => "Operator(".toList ++ Text.quoted tree.canonical ++ [')']

end Formulary.Expr
