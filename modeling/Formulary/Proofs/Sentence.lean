import Formulary.Proofs.Cutting
import Formulary.Proofs.Grammar.Juxtaposition
import Formulary.Proofs.Rpn.Arrangement

/-!
# Sentences and what is read

Every sentence of the grammar is read as the tree of its derivation.  The converse fails: a text
such as `a 1 +`, in which values stand side by side, is read as well.  What is read and is not a
sentence is always of this sort.
-/

namespace Formulary.Grammar

theorem ofTokens_of_arranges {tokens : List Token} {tree : Expr}
    (harranges : Rpn.Arranges .sum tokens tree) (hne : tokens ≠ []) :
    Expr.ofTokens tokens = .ok tree :=
  Expr.ofTokens_eq_ok_iff.mpr (harranges.ofInfix hne)

theorem ofTokens_of_derives {tokens : List Token} {tree : Expr}
    (hderives : Derives .sum tokens tree) : Expr.ofTokens tokens = .ok tree :=
  ofTokens_of_arranges (Rpn.arranges_of_derives hderives) hderives.ne_nil

/-- A sentence is read as the tree of its derivation, and so is every text that is cut into it. -/
theorem Derives.read {tokens : List Token} {tree : Expr} (hderives : Derives .sum tokens tree) :
    Expr.ofTokens tokens = .ok tree ∧
      ∀ text, Token.ofText text = .ok tokens → Expr.parse text = .ok tree := by
  have hread := ofTokens_of_derives hderives
  constructor
  · exact hread
  · intro text hcut
    exact Expr.parse_eq_ok_iff.mpr ⟨tokens, hcut, hread⟩

/-- Powers group to the right, also through parentheses, and bind tighter than differences. -/
theorem read_nested_powers :
    Derives .sum
        [⟨.identifier, ['a']⟩, ⟨.operator, ['-']⟩, ⟨.identifier, ['b']⟩, ⟨.operator, ['^']⟩,
          ⟨.opener, ['(']⟩, ⟨.identifier, ['c']⟩, ⟨.operator, ['-']⟩, ⟨.number, ['2']⟩,
          ⟨.closer, [')']⟩, ⟨.operator, ['^']⟩, ⟨.identifier, ['d']⟩]
        (.operator ['-'] (.operand ['a'])
          (.operator ['^'] (.operand ['b'])
            (.operator ['^'] (.operator ['-'] (.operand ['c']) (.operand ['2']))
              (.operand ['d'])))) ∧
      Expr.parse "a-b^(c-2)^d".toList =
        .ok (.operator ['-'] (.operand ['a'])
          (.operator ['^'] (.operand ['b'])
            (.operator ['^'] (.operator ['-'] (.operand ['c']) (.operand ['2']))
              (.operand ['d'])))) := by
  have hletter (c : Char) : Derives .atom [⟨.identifier, [c]⟩] (.operand [c]) := .operand rfl
  have hdigit : Derives .atom [⟨.number, ['2']⟩] (.operand ['2']) := .operand rfl
  have hminus : Joins .sum ⟨.operator, ['-']⟩ := ⟨rfl, by decide⟩
  have hpower : Joins .power ⟨.operator, ['^']⟩ := ⟨rfl, by decide⟩
  have hinner := Derives.sum (derives_sum_of_atom (hletter 'c')) hminus
    (.productOfPower (.powerOfAtom hdigit))
  have hgroup : Derives .atom (⟨.opener, ['(']⟩ :: (_ ++ [⟨.closer, [')']⟩])) _ :=
    .group rfl hinner rfl
  have hpowers := Derives.power (hletter 'b') hpower
    (.power hgroup hpower (.powerOfAtom (hletter 'd')))
  have hderives := Derives.sum (derives_sum_of_atom (hletter 'a')) hminus (.productOfPower hpowers)
  exact ⟨hderives, hderives.read.2 _ (by decide +kernel)⟩

/-- A token that a text is cut into joins phrases if it is an operator at all. -/
theorem exists_joins_of_ofText {text : Text} {tokens : List Token}
    (hcut : Token.ofText text = .ok tokens) :
    ∀ token ∈ tokens, token.kind = .operator → ∃ stratum, Joins stratum token := by
  intro token htoken hkind
  have hwellFormed := (Token.ofText_eq_ok_iff.mp hcut).2.wellFormed token htoken
  simp only [Token.WellFormed, hkind] at hwellFormed
  obtain ⟨stratum, hmem⟩ := mem_operatorSigns_iff.mp hwellFormed
  exact ⟨stratum, hkind, hmem⟩

/-- A text that is read has tokens whose parentheses are nested and whose operands outnumber the
operators by one.  They are a sentence, and then one with the tree that is read, exactly if no two
values stand side by side. -/
theorem parse_sentence_iff {text : Text} {tree : Expr} (hparse : Expr.parse text = .ok tree) :
    ∃ tokens, Token.ofText text = .ok tokens ∧
      Rpn.nesting 0 tokens = some 0 ∧ surplus tokens = 1 ∧
      (Sentence tokens → Derives .sum tokens tree) ∧
      (Sentence tokens ↔ tokens.IsChain Apart) := by
  obtain ⟨tokens, hcut, hread⟩ := Expr.parse_eq_ok_iff.mp hparse
  obtain ⟨hnesting, hsurplus⟩ := nested_of_ofTokens hread
  refine ⟨tokens, hcut, hnesting, hsurplus, ?_, ?_⟩
  · rintro ⟨other, hderives⟩
    have hsame := ofTokens_of_derives hderives
    rw [hread] at hsame
    cases hsame
    exact hderives
  · exact sentence_iff_isChain_apart (exists_joins_of_ofText hcut) hread

theorem parse_sentence_iff_product :
    Expr.parse "(x + 1) * y".toList =
        .ok (.operator ['*'] (.operator ['+'] (.operand ['x']) (.operand ['1'])) (.operand ['y'])) ∧
      ∃ tokens, Token.ofText "(x + 1) * y".toList = .ok tokens ∧
        Rpn.nesting 0 tokens = some 0 ∧ surplus tokens = 1 ∧
        (Sentence tokens → Derives .sum tokens
          (.operator ['*'] (.operator ['+'] (.operand ['x']) (.operand ['1'])) (.operand ['y']))) ∧
        (Sentence tokens ↔ tokens.IsChain Apart) :=
  ⟨by decide +kernel, parse_sentence_iff (by decide +kernel)⟩

/-- Two values side by side with an operator behind them are read, although they are no sentence. -/
theorem juxtaposed_values_are_read :
    Expr.parse "a 1 +".toList = .ok (.operator ['+'] (.operand ['a']) (.operand ['1'])) ∧
      ¬ ∃ tokens, Token.ofText "a 1 +".toList = .ok tokens ∧ Sentence tokens := by
  refine ⟨by decide +kernel, ?_⟩
  rintro ⟨tokens, hcut, tree, hderives⟩
  have htokens : Token.ofText "a 1 +".toList =
      .ok [⟨.identifier, ['a']⟩, ⟨.number, ['1']⟩, ⟨.operator, ['+']⟩] := by decide +kernel
  rw [htokens] at hcut
  cases hcut
  exact absurd hderives.isChain_apart (by decide)

end Formulary.Grammar
