import Formulary.Expr.Walk

/-!
# Walks and structural recursion

The walks keep what is still to be done in a list.  Whatever else is in that list, a subtree at its
front is dealt with as structural recursion deals with it, and then the rest goes on.
-/

namespace Formulary.Expr

variable {m : Type → Type} [Monad m] [LawfulMonad m] {α : Type}

/-- A subtree that is entered is reduced, and its result waits for the rest of the walk. -/
theorem walkFrom_enter (stuck : m α) (leaf : Text → m α)
    (node : Text → Expr → Expr → α → α → m α) (tree : Expr) (pending : List Visit)
    (results : List α) :
    walkFrom stuck leaf node (.enter tree :: pending) results =
      tree.foldM leaf node >>= fun result =>
        walkFrom stuck leaf node pending (result :: results) := by
  induction tree generalizing pending results with
  | operand symbol => rw [walkFrom, foldM]
  | operator sign left right ihleft ihright =>
      rw [walkFrom, ihleft, foldM, bind_assoc]
      congr 1
      funext first
      rw [ihright, bind_assoc]
      congr 1
      funext second
      rw [walkFrom]

/-- A walk reduces the tree from its leaves up, in the same order and with the same failures as
structural recursion, and never gets stuck. -/
theorem walk_eq_foldM (stuck : m α) (leaf : Text → m α)
    (node : Text → Expr → Expr → α → α → m α) (tree : Expr) :
    walk stuck leaf node tree = tree.foldM leaf node := by
  rw [walk, walkFrom_enter]
  simp only [walkFrom, bind_pure]

/-- A subtree that is to be written is written out in full before the rest. -/
theorem write_tree (tree : Expr) (rest : List Piece) (written : Text) :
    write (.tree tree :: rest) written = write rest (tree.bracketed.reverse ++ written) := by
  induction tree generalizing rest written with
  | operand symbol => rw [write, bracketed]
  | operator sign left right ihleft ihright =>
      rw [write, write, ihleft, write, ihright, write, bracketed]
      simp

/-- The canonical text puts every operator in parentheses. -/
theorem canonical_eq_bracketed (tree : Expr) : tree.canonical = tree.bracketed := by
  rw [canonical, write_tree, write]
  simp

end Formulary.Expr
