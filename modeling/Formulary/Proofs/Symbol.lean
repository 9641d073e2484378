import Formulary.Expr.Evaluation
import Formulary.Proofs.Canonical

/-!
# Symbols and kinds

The symbol of a leaf tells which kind of token it comes from: a literal is a number, and any other
symbol is the name of a variable.  So the kinds of the tokens that list a tree, and the names among
them, can be read off the tree, and the names stand in it in the order of the text.
-/

namespace Formulary

open Token (IsName IsNumeral)

theorem Binary64.isLiteral_of_isNumeral {symbol : Text} (hnumeral : IsNumeral symbol) :
    isLiteral symbol := by
  rcases hnumeral with ⟨hne, hdigits⟩ | ⟨whole, fraction, ⟨hne, hdigits⟩, ⟨hne', hdigits'⟩, rfl⟩
  · have hstop : ∀ c ∈ ([] : Text).head?, c.isDigit = false := by simp
    obtain ⟨htake, hdrop⟩ := Token.takeWhile_append_stop hdigits hstop
    rw [List.append_nil] at htake hdrop
    simpa [isLiteral, htake, hdrop] using hne
  · have hstop : ∀ c ∈ ('.' :: fraction).head?, c.isDigit = false := by simp
    obtain ⟨htake, hdrop⟩ := Token.takeWhile_append_stop hdigits hstop
    simp only [isLiteral, htake, hdrop]
    simpa using ⟨⟨hne, hne'⟩, hdigits'⟩

theorem Binary64.isLiteral_eq_false_of_isName {symbol : Text} (hname : IsName symbol) :
    isLiteral symbol = false := by
  obtain ⟨hne, hletters⟩ := hname
  cases symbol with
  | nil => exact absurd rfl hne
  | cons c rest =>
      have hdigit := Token.isDigit_eq_false_of_isAlpha (hletters c List.mem_cons_self)
      have htake : (c :: rest).takeWhile Char.isDigit = [] :=
        List.takeWhile_cons_of_neg (by simp [hdigit])
      simp only [isLiteral, htake]
      split <;> simp_all

/-- The symbol of an operand tells its kind. -/
theorem Token.WellFormed.kind_eq {token : Token} (hwellFormed : token.WellFormed)
    (hoperand : token.kind.isOperand) :
    token.kind = if Binary64.isLiteral token.text then .number else .identifier := by
  rcases Kind.isOperand_iff.mp hoperand with hkind | hkind
  · simp only [WellFormed, hkind] at hwellFormed
    rw [hkind, if_pos (Binary64.isLiteral_of_isNumeral hwellFormed)]
  · simp only [WellFormed, hkind] at hwellFormed
    rw [hkind, Binary64.isLiteral_eq_false_of_isName hwellFormed, if_neg (by simp)]

def Token.names (tokens : List Token) : List Text :=
  (tokens.filter fun token => token.kind = .identifier).map Token.text

/-- Names are the operands that are no literals. -/
theorem Token.names_eq {tokens : List Token} (htokens : ∀ token ∈ tokens, token.WellFormed) :
    names tokens = ((Rpn.operands tokens).map Token.text).filter fun symbol =>
      !Binary64.isLiteral symbol := by
  rw [List.filter_map, Rpn.operands, List.filter_filter, names]
  congr 1
  apply List.filter_congr
  intro token htoken
  by_cases hoperand : token.kind.isOperand
  · rw [(htokens token htoken).kind_eq hoperand]
    by_cases hliteral : Binary64.isLiteral token.text <;> simp [hliteral, Kind.isOperand]
  · have hkind : token.kind ≠ .identifier := by
      intro hkind
      exact hoperand (Kind.isOperand_iff.mpr (.inr hkind))
    simp [hoperand, hkind]

namespace Expr

/-- The kinds of the tokens that list a tree: each leaf is a number or a name by its symbol. -/
def kinds : Expr → List Token.Kind
  | operand symbol => [if Binary64.isLiteral symbol then .number else .identifier]
  | operator _ left right => left.kinds ++ right.kinds ++ [.operator]

/-- The symbols of a tree that are no literals, from left to right. -/
def names (tree : Expr) : List Text :=
  tree.leaves.filter fun symbol => !Binary64.isLiteral symbol

theorem not_isParen_of_mem_kinds {tree : Expr} {kind : Token.Kind} (hkind : kind ∈ tree.kinds) :
    ¬ kind.isParen := by
  induction tree with
  | operand symbol =>
      rw [List.mem_singleton.mp hkind]
      split <;> simp [Token.Kind.isParen]
  | operator sign left right ihleft ihright =>
      rcases List.mem_append.mp hkind with hkind | hkind
      · exact (List.mem_append.mp hkind).elim ihleft ihright
      · rw [List.mem_singleton.mp hkind]
        simp [Token.Kind.isParen]

/-- Well-formed tokens that list a tree have the kinds that its symbols tell. -/
theorem Listed.kinds_eq {tree : Expr} {listing : List Token} (hlisted : Listed tree listing)
    (htokens : ∀ token ∈ listing, token.WellFormed) : listing.map Token.kind = tree.kinds := by
  induction hlisted with
  | operand hoperand =>
      rw [List.map_singleton, kinds, (htokens _ List.mem_cons_self).kind_eq hoperand]
  | operator hsign _ _ ihleft ihright =>
      rw [List.map_append, List.map_append, List.map_singleton, hsign, kinds,
        ihleft fun token htoken => htokens token (by simp [htoken]),
        ihright fun token htoken => htokens token (by simp [htoken])]

theorem Listed.leaves_eq {tree : Expr} {listing : List Token} (hlisted : Listed tree listing) :
    tree.leaves = (Rpn.operands listing).map Token.text := by
  induction hlisted with
  | operand hoperand => simp [leaves, Rpn.operands, hoperand]
  | @operator sign left right first second hsign _ _ ihleft ihright =>
      have hoperator : ¬ sign.kind.isOperand := by simp [hsign, Token.Kind.isOperand]
      have hsigns : Rpn.operands [sign] = [] := Rpn.operands_cons_of_not hoperator []
      rw [leaves, ihleft, ihright, Rpn.operands_append, hsigns, List.append_nil,
        Rpn.operands_append, List.map_append]

/-- The leaves of the tree of a text are the operands of the text, in the same order. -/
theorem leaves_eq_of_parse {text : Text} {tree : Expr} (hparse : parse text = .ok tree) :
    ∃ tokens, Token.ofText text = .ok tokens ∧
      tree.leaves = (Rpn.operands tokens).map Token.text := by
  obtain ⟨tokens, hcut, hread⟩ := parse_eq_ok_iff.mp hparse
  obtain ⟨listing, harranged, hlisted⟩ := ofTokens_eq_ok_iff.mp hread
  refine ⟨tokens, hcut, ?_⟩
  rw [hlisted.leaves_eq, Rpn.operands_ofInfix harranged]

/-- The names in the tree of a text are those of the text, in the same order. -/
theorem names_eq_of_parse {text : Text} {tree : Expr} (hparse : parse text = .ok tree) :
    ∃ tokens, Token.ofText text = .ok tokens ∧ tree.names = Token.names tokens := by
  obtain ⟨tokens, hcut, hleaves⟩ := leaves_eq_of_parse hparse
  have hwellFormed := (Token.ofText_eq_ok_iff.mp hcut).2.wellFormed
  refine ⟨tokens, hcut, ?_⟩
  rw [names, hleaves, Token.names_eq hwellFormed]

end Expr

end Formulary
