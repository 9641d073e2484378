import Formulary.Expr.Parse
import Formulary.Proofs.Cutting
import Formulary.Proofs.Walk

/-!
# Equality of nodes

Nodes are compared by their canonical texts.  Such a text stands for one tree only, as long as no
symbol contains a parenthesis or an operator: behind a symbol or a group comes an operator, a closer
or nothing, so that the start of the text already tells where its first part ends.
-/

namespace Formulary.Expr

open Formulary.Grammar (operatorSigns)

/-- Whether a character marks the parts of a canonical text off from one another. -/
def isMark (c : Char) : Bool :=
  c == '(' || c == ')' || Token.isOperatorSign c

/-- Signs are operators, and symbols are free of marks.  Otherwise a symbol may be any text, also an
empty one. -/
def Unmarked : Expr → Prop
  | operand symbol => ∀ c ∈ symbol, isMark c = false
  | operator sign left right => sign ∈ operatorSigns ∧ left.Unmarked ∧ right.Unmarked

/-- The text is what may follow a subtree: it starts with an operator or a closer, or is empty. -/
def Follows (rest : Text) : Prop :=
  ∀ c ∈ rest.head?, isMark c = true ∧ c ≠ '('

theorem follows_operator {c : Char} (hsign : Token.isOperatorSign c) (rest : Text) :
    Follows (c :: rest) := by
  intro d hd
  obtain rfl : c = d := Option.some.inj hd
  constructor
  · simp [isMark, hsign]
  · rintro rfl
    cases hsign

theorem follows_closer (rest : Text) : Follows (')' :: rest) := by
  simp [Follows, isMark]

theorem bracketed_operator_append (sign : Text) (left right : Expr) (rest : Text) :
    (operator sign left right).bracketed ++ rest =
      '(' :: (left.bracketed ++ (sign ++ (right.bracketed ++ ')' :: rest))) := by
  simp [bracketed]

/-- A symbol ends where the first mark stands. -/
theorem span_symbol {symbol rest : Text} (hsymbol : ∀ c ∈ symbol, isMark c = false)
    (hrest : Follows rest) :
    (symbol ++ rest).takeWhile (fun c => !isMark c) = symbol ∧
      (symbol ++ rest).dropWhile (fun c => !isMark c) = rest := by
  apply Token.takeWhile_append_stop
  · simpa using hsymbol
  · intro c hc
    simp [(hrest c hc).1]

theorem symbol_append_inj {symbol other rest rest' : Text}
    (hsymbol : ∀ c ∈ symbol, isMark c = false) (hother : ∀ c ∈ other, isMark c = false)
    (hrest : Follows rest) (hrest' : Follows rest') (heq : symbol ++ rest = other ++ rest') :
    symbol = other ∧ rest = rest' := by
  obtain ⟨htake, hdrop⟩ := span_symbol hsymbol hrest
  obtain ⟨htake', hdrop'⟩ := span_symbol hother hrest'
  rw [heq] at htake hdrop
  exact ⟨htake.symm.trans htake', hdrop.symm.trans hdrop'⟩

/-- Neither a symbol nor what follows it starts with an opener, so a symbol is no group. -/
theorem symbol_append_ne_group {symbol rest : Text} (hsymbol : ∀ c ∈ symbol, isMark c = false)
    (hrest : Follows rest) (group : Text) : symbol ++ rest ≠ '(' :: group := by
  intro heq
  cases symbol with
  | nil =>
      subst heq
      exact (hrest '(' rfl).2 rfl
  | cons c symbol =>
      obtain ⟨rfl, -⟩ := List.cons.inj heq
      simpa [isMark] using hsymbol '(' List.mem_cons_self

/-- A canonical text in front of what may follow it determines its tree, by induction on the tree:
the part of each operand is followed by the sign or the closer of the group. -/
theorem bracketed_append_inj {left right : Expr} (hleft : left.Unmarked) (hright : right.Unmarked)
    {rest rest' : Text} (hrest : Follows rest) (hrest' : Follows rest')
    (heq : left.bracketed ++ rest = right.bracketed ++ rest') : left = right ∧ rest = rest' := by
  induction left generalizing right rest rest' with
  | operand symbol =>
      cases right with
      | operand other =>
          obtain ⟨rfl, hsame⟩ := symbol_append_inj hleft hright hrest hrest' heq
          exact ⟨rfl, hsame⟩
      | operator sign first second =>
          rw [bracketed_operator_append] at heq
          exact absurd heq (symbol_append_ne_group hleft hrest _)
  | operator sign left₁ left₂ ih₁ ih₂ =>
      obtain ⟨hsign, hleft₁, hleft₂⟩ := hleft
      rw [bracketed_operator_append] at heq
      cases right with
      | operand other => exact absurd heq.symm (symbol_append_ne_group hright hrest' _)
      | operator sign' right₁ right₂ =>
          obtain ⟨hsign', hright₁, hright₂⟩ := hright
          rw [bracketed_operator_append] at heq
          obtain ⟨c, rfl, hc⟩ := Token.exists_isOperatorSign hsign
          obtain ⟨c', rfl, hc'⟩ := Token.exists_isOperatorSign hsign'
          obtain ⟨rfl, hbehind⟩ := ih₁ hleft₁ hright₁ (follows_operator hc _)
            (follows_operator hc' _) (List.tail_eq_of_cons_eq heq)
          obtain ⟨rfl, hoperand⟩ := List.cons.inj hbehind
          obtain ⟨rfl, hcloser⟩ := ih₂ hleft₂ hright₂ (follows_closer _) (follows_closer _) hoperand
          exact ⟨rfl, List.tail_eq_of_cons_eq hcloser⟩

theorem canonical_inj_of_unmarked {left right : Expr} (hleft : left.Unmarked)
    (hright : right.Unmarked) (hcanonical : left.canonical = right.canonical) : left = right := by
  rw [canonical_eq_bracketed, canonical_eq_bracketed] at hcanonical
  have hnothing : Follows [] := by simp [Follows]
  apply And.left
  apply bracketed_append_inj hleft hright hnothing hnothing
  rw [hcanonical]

/-- Among trees whose symbols are free of marks nodes count as equal exactly if they are the same
tree, and so do canonical texts. -/
theorem sameNode_iff_and_canonical_iff {left right : Expr} (hleft : left.Unmarked)
    (hright : right.Unmarked) :
    (sameNode left right = true ↔ left = right) ∧
      (left.canonical = right.canonical ↔ left = right) := by
  have hcanonical : left.canonical = right.canonical ↔ left = right := by
    constructor
    · exact canonical_inj_of_unmarked hleft hright
    · rintro rfl
      rfl
  refine ⟨?_, hcanonical⟩
  cases left with
  | operand symbol => cases right <;> simp [sameNode]
  | operator sign first second =>
      cases right with
      | operand other => simp [sameNode]
      | operator sign' first' second' => simpa [sameNode] using hcanonical

/-- Symbols that are empty, or no symbols of a formula, grouped to the left. -/
def groupedLeft : Expr :=
  operator ['-'] (operator ['-'] (operand []) (operand "é 1.".toList)) (operand [])

def groupedRight : Expr :=
  operator ['-'] (operand []) (operator ['-'] (operand "é 1.".toList) (operand []))

theorem sameNode_iff_and_canonical_iff_regrouped :
    groupedLeft.Unmarked ∧ groupedRight.Unmarked ∧ sameNode groupedLeft groupedRight = false ∧
      groupedLeft.canonical ≠ groupedRight.canonical := by
  have hleft : groupedLeft.Unmarked := by
    simp [groupedLeft, Unmarked, operatorSigns, isMark, Token.isOperatorSign]
  have hright : groupedRight.Unmarked := by
    simp [groupedRight, Unmarked, operatorSigns, isMark, Token.isOperatorSign]
  have hdiffer : groupedLeft ≠ groupedRight := by decide
  obtain ⟨hsame, hcanonical⟩ := sameNode_iff_and_canonical_iff hleft hright
  refine ⟨hleft, hright, ?_, mt hcanonical.mp hdiffer⟩
  rw [Bool.eq_false_iff]
  exact mt hsame.mp hdiffer

end Formulary.Expr
