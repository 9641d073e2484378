import Formulary.Expr.Parse
import Formulary.Proofs.Outcome
import Mathlib.Data.List.Forall2

/-!
# Listings of trees

A tree is listed by tokens in reverse Polish order: an operand token for each leaf, and an operator
token behind the listings of its two operands.  `Expr.build` reads such a listing with a stack of
finished subtrees; these lemmas say that it returns the listed tree, and that it returns a tree for
nothing else.
-/

namespace Formulary.Expr

/-- The tokens list the tree in reverse Polish order. -/
inductive Listed : Expr → List Token → Prop
  | operand {token : Token} (hoperand : token.kind.isOperand) :
      Listed (.operand token.text) [token]
  | operator {sign : Token} {left right : Expr} {first second : List Token}
      (hsign : sign.kind = .operator) (hleft : Listed left first) (hright : Listed right second) :
      Listed (.operator sign.text left right) (first ++ second ++ [sign])

theorem Listed.ne_nil {tree : Expr} {listing : List Token} (hlisted : Listed tree listing) :
    listing ≠ [] := by
  cases hlisted <;> simp

theorem Listed.texts_eq {tree : Expr} {listing : List Token} (hlisted : Listed tree listing) :
    listing.map Token.text = tree.listing := by
  induction hlisted with
  | operand hoperand => rfl
  | operator hsign _ _ ihleft ihright => simp [Expr.listing, ihleft, ihright]

theorem build_operand {token : Token} (hoperand : token.kind.isOperand) (rest : List Token)
    (finished : List Expr) :
    build (token :: rest) finished = build rest (.operand token.text :: finished) := by
  rcases Token.Kind.isOperand_iff.mp hoperand with hkind | hkind <;>
    simp only [build, hkind]

/-- Building a listed tree on top of other trees leaves them alone. -/
theorem build_listed {tree : Expr} {listing : List Token} (hlisted : Listed tree listing)
    (rest : List Token) (finished : List Expr) :
    build (listing ++ rest) finished = build rest (tree :: finished) := by
  induction hlisted generalizing rest finished with
  | operand hoperand => exact build_operand hoperand rest finished
  | operator hsign _ _ ihleft ihright =>
      rw [List.append_assoc, List.append_assoc, ihleft, ihright, List.singleton_append, build,
        hsign]

theorem ofListing_listed {tree : Expr} {listing : List Token} (hlisted : Listed tree listing) :
    ofListing listing = .ok tree := by
  have hbuild := build_listed hlisted [] []
  rw [List.append_nil] at hbuild
  rw [ofListing, if_neg (by simpa using hlisted.ne_nil), hbuild, build]

/-- What is built is listed by the tokens read so far, which list the finished trees, followed by
the tokens still to be read. -/
theorem listed_of_build {tokens : List Token} {finished : List Expr} {tree : Expr}
    (hbuild : build tokens finished = .ok tree) {parts : List (List Token)}
    (hparts : List.Forall₂ Listed finished parts) :
    Listed tree (parts.reverse.flatten ++ tokens) := by
  fun_induction build tokens finished generalizing parts with
  | case1 root =>
      obtain ⟨part, others, hroot, hothers, rfl⟩ := List.forall₂_cons_left_iff.mp hparts
      cases hothers
      cases hbuild
      simpa using hroot
  | case2 => cases hbuild
  | case3 token rest finished hkind ih | case4 token rest finished hkind ih =>
      have hoperand : token.kind.isOperand := by simp [Token.Kind.isOperand_iff, hkind]
      simpa using ih hbuild (.cons (.operand hoperand) hparts)
  | case5 token rest hkind right left finished ih =>
      obtain ⟨second, _, hright, hrest, rfl⟩ := List.forall₂_cons_left_iff.mp hparts
      obtain ⟨first, _, hleft, hfinished, rfl⟩ := List.forall₂_cons_left_iff.mp hrest
      simpa using ih hbuild (.cons (.operator hkind hleft hright) hfinished)
  | case6 => cases hbuild
  | case7 => cases hbuild
  | case8 => cases hbuild

/-- Exactly the listings of a tree are built into it. -/
theorem ofListing_eq_ok_iff {tokens : List Token} {tree : Expr} :
    ofListing tokens = .ok tree ↔ Listed tree tokens := by
  constructor
  · intro hlisting
    unfold ofListing at hlisting
    split at hlisting
    · cases hlisting
    · simpa using listed_of_build hlisting .nil
  · exact ofListing_listed

/-- Tokens are read as a tree exactly if they are arranged into a listing of it. -/
theorem ofTokens_eq_ok_iff {tokens : List Token} {tree : Expr} :
    ofTokens tokens = .ok tree ↔
      ∃ listing, Rpn.ofInfix tokens = .ok listing ∧ Listed tree listing := by
  simp only [← ofListing_eq_ok_iff]
  exact bind_eq_ok_iff

theorem parse_eq_ok_iff {text : Text} {tree : Expr} :
    parse text = .ok tree ↔
      ∃ tokens, Token.ofText text = .ok tokens ∧ ofTokens tokens = .ok tree :=
  bind_eq_ok_iff

end Formulary.Expr
