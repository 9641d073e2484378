import Formulary.Fault

/-!
# Expression trees

The tree of a formula, and what structural recursion says about it: its canonical text, its height,
its leaves, its listing in reverse Polish order and its reduction. `Formulary.Expr.Walk` computes
the same with explicit stacks.
-/

namespace Formulary

/-- An expression: an operand, which is a literal or the name of a variable, or an operator applied
to two expressions. -/
inductive Expr where
  | operand (symbol : Text)
  | operator (sign : Text) (left right : Expr)
  deriving DecidableEq, Repr

namespace Expr

/-- The tree with every operator in parentheses. -/
def bracketed : Expr → Text
  | operand symbol => symbol
  | operator sign left right => '(' :: (left.bracketed ++ sign ++ right.bracketed ++ [')'])

/-- The number of nodes on the longest way down; a leaf has height one. -/
def height : Expr → Nat
  | operand _ => 1
  | operator _ left right => 1 + max left.height right.height

def size : Expr → Nat
  | operand _ => 1
  | operator _ left right => left.size + right.size + 1

def leaves : Expr → List Text
  | operand symbol => [symbol]
  | operator _ left right => left.leaves ++ right.leaves

/-- The symbols and signs in reverse Polish order: left subtree, right subtree, node. -/
def listing : Expr → List Text
  | operand symbol => [symbol]
  | operator sign left right => left.listing ++ right.listing ++ [sign]

/-- Reduce a tree from its leaves up: the left subtree, the right subtree, then the node. For a node
its sign, its operands and their results are at hand. -/
def foldM {m : Type → Type} {α : Type} [Monad m] (leaf : Text → m α)
    (node : Text → Expr → Expr → α → α → m α) : Expr → m α
  | operand symbol => leaf symbol
  | operator sign left right => do
    let first ← left.foldM leaf node
    let second ← right.foldM leaf node
    node sign left right first second

/-- An operator node, provided that both of its operands are there. -/
def ofParts (sign : Text) : Option Expr → Option Expr → Except Fault Expr
  | some left, some right => .ok (.operator sign left right)
  | _, _ => .error (.missingChild sign)

end Expr

end Formulary
