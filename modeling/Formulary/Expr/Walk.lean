import Formulary.Expr

/-!
# Walks with an explicit stack

A formula such as `1+1+…+1` makes a tree as deep as it is long. The walks of this module therefore
keep what is still to be visited in a list, so that their own depth never grows.
-/

namespace Formulary.Expr

def total {α : Type} (weight : α → Nat) : List α → Nat
  | [] => 0
  | item :: rest => weight item + total weight rest

/-- What a walk still has to do: enter a subtree, or combine the two latest results, which are those
of the operands of a node. -/
inductive Visit where
  | enter (subtree : Expr)
  | combine (sign : Text) (left right : Expr)

def Visit.steps : Visit → Nat
  | enter subtree => 2 * subtree.size
  | combine _ _ _ => 1

/-- Continue a walk with pending visits, next one first, and results, latest one first. Where a
result is missing or left over, the outcome is `stuck`. -/
@[specialize]
def walkFrom {m : Type → Type} {α : Type} [Monad m] (stuck : m α) (leaf : Text → m α)
    (node : Text → Expr → Expr → α → α → m α) : List Visit → List α → m α
  | [], [result] => pure result
  | [], _ => stuck
  | .enter (.operand symbol) :: pending, results => do
    let result ← leaf symbol
    walkFrom stuck leaf node pending (result :: results)
  | .enter (.operator sign left right) :: pending, results =>
    walkFrom stuck leaf node (.enter left :: .enter right :: .combine sign left right :: pending)
      results
  | .combine sign left right :: pending, second :: first :: results => do
    let result ← node sign left right first second
    walkFrom stuck leaf node pending (result :: results)
  | .combine _ _ _ :: _, _ => stuck
termination_by pending => total Visit.steps pending
decreasing_by all_goals simp [total, Visit.steps, size] <;> omega

/-- Reduce a tree from its leaves up without recursion. -/
@[specialize]
def walk {m : Type → Type} {α : Type} [Monad m] (stuck : m α) (leaf : Text → m α)
    (node : Text → Expr → Expr → α → α → m α) (tree : Expr) : m α :=
  walkFrom stuck leaf node [.enter tree] []

/-- What is still to be written: a text or a subtree. -/
inductive Piece where
  | text (symbols : Text)
  | tree (root : Expr)

def Piece.steps : Piece → Nat
  | text _ => 1
  | tree root => 6 * root.size

/-- Write the pieces behind the characters that are already written, last one first. -/
def write : List Piece → Text → Text
  | [], written => written.reverse
  | .text text :: rest, written => write rest (text.reverse ++ written)
  | .tree (.operand symbol) :: rest, written => write rest (symbol.reverse ++ written)
  | .tree (.operator sign left right) :: rest, written =>
    write (.text ['('] :: .tree left :: .text sign :: .tree right :: .text [')'] :: rest) written
termination_by pieces => total Piece.steps pieces
decreasing_by all_goals simp [total, Piece.steps, size] <;> omega

/-- The canonical text of a tree. Equal trees have equal canonical texts, and blanks and superfluous
parentheses of a formula never reach it. -/
def canonical (tree : Expr) : Text :=
  write [.tree tree] []

def depth (tree : Expr) : Nat :=
  walk (m := Id) 0 (fun _ => 1) (fun _ _ _ first second => 1 + max first second) tree

/-- The leaf symbols that satisfy `keep`, from left to right and each once, behind those already
`seen`, last one first. -/
def collect (keep : Text → Bool) : List Expr → List Text → List Text
  | [], seen => seen.reverse
  | .operand symbol :: pending, seen =>
    collect keep pending (if keep symbol && !seen.contains symbol then symbol :: seen else seen)
  | .operator _ left right :: pending, seen => collect keep (left :: right :: pending) seen
termination_by pending => total size pending
decreasing_by all_goals simp [total, size] <;> omega

end Formulary.Expr
