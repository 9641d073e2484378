import Formulary.Proofs.Sentence
import Formulary.Proofs.Walk

/-!
# Canonical texts are read back

The canonical text of a tree is a sentence of the grammar with that tree.  The sentence is found by
induction on the tree, in front of any text that cannot prolong a symbol.
-/

namespace Formulary.Expr

open Formulary.Grammar
open Formulary.Token (Cut IsName IsNumeral)

/-- Symbols are numerals or names, and signs are operators. -/
def WellFormed : Expr → Prop
  | operand symbol => IsNumeral symbol ∨ IsName symbol
  | operator sign left right => sign ∈ operatorSigns ∧ left.WellFormed ∧ right.WellFormed

/-- The text does not start with a character that could prolong a symbol. -/
def Stops (rest : Text) : Prop :=
  ∀ c ∈ rest.head?, c.isDigit = false ∧ c.isAlpha = false ∧ c ≠ '.'

theorem stops_operator {sign : Text} (hsign : sign ∈ operatorSigns) (rest : Text) :
    Stops (sign ++ rest) := by
  simp only [operatorSigns, List.mem_cons, List.not_mem_nil, or_false] at hsign
  rcases hsign with rfl | rfl | rfl | rfl | rfl <;> simp [Stops]

theorem Stops.ends {rest : Text} (hstops : Stops rest) (token : Token) : Token.Ends token rest where
  number _ c hc := (hstops c hc).1
  name _ c hc := (hstops c hc).2.1
  fraction _ d more hrest := by
    subst hrest
    exact absurd rfl (hstops '.' rfl).2.2

/-- Two atoms and an operator between them are a sentence, whichever stratum the operator is of. -/
theorem derives_of_atoms {stratum : Stratum} {left right : List Token} {sign : Token}
    {first second : Expr} (hleft : Derives .atom left first) (hsign : Joins stratum sign)
    (hright : Derives .atom right second) :
    Derives .sum (left ++ sign :: right) (.operator sign.text first second) := by
  cases stratum with
  | sum => exact .sum (derives_sum_of_atom hleft) hsign (.productOfPower (.powerOfAtom hright))
  | product =>
      exact .sumOfProduct (.product (.productOfPower (.powerOfAtom hleft)) hsign
        (.powerOfAtom hright))
  | power => exact .sumOfProduct (.productOfPower (.power hleft hsign (.powerOfAtom hright)))
  | atom => exact absurd hsign (not_joins_atom sign)

/-- The canonical text of a well-formed tree is cut into an atom with that tree. -/
theorem cut_bracketed {tree : Expr} (hwellFormed : tree.WellFormed) :
    ∃ tokens, Derives .atom tokens tree ∧
      ∀ rest cut, Stops rest → Cut rest cut → Cut (tree.bracketed ++ rest) (tokens ++ cut) := by
  induction tree with
  | operand symbol =>
      obtain ⟨kind, hoperand, htoken⟩ :
          ∃ kind : Token.Kind, kind.isOperand ∧ Token.WellFormed ⟨kind, symbol⟩ := by
        rcases hwellFormed with hnumeral | hname
        · exact ⟨.number, rfl, hnumeral⟩
        · exact ⟨.identifier, rfl, hname⟩
      refine ⟨[⟨kind, symbol⟩], .operand hoperand, ?_⟩
      intro rest cut hstops hcut
      exact .cons (Token.munch_of_ends htoken (hstops.ends _)) hcut
  | operator sign left right ihleft ihright =>
      obtain ⟨hsign, hleft, hright⟩ := hwellFormed
      obtain ⟨first, hfirst, hcutFirst⟩ := ihleft hleft
      obtain ⟨second, hsecond, hcutSecond⟩ := ihright hright
      obtain ⟨stratum, hmem⟩ := mem_operatorSigns_iff.mp hsign
      have hinner : Derives .sum (first ++ ⟨.operator, sign⟩ :: second)
          (.operator sign left right) :=
        derives_of_atoms hfirst ⟨rfl, hmem⟩ hsecond
      refine ⟨⟨.opener, ['(']⟩ :: (first ++ ⟨.operator, sign⟩ :: second ++ [⟨.closer, [')']⟩]),
        .group rfl hinner rfl, ?_⟩
      intro rest cut _ hcut
      have hcloser : Cut (')' :: rest) (⟨.closer, [')']⟩ :: cut) :=
        .cons (Token.munch_closer rest) hcut
      have hright := hcutSecond _ _ (by simp [Stops]) hcloser
      have hoperator := Cut.cons (Token.munch_operator hsign _) hright
      have hleft := hcutFirst _ _ (stops_operator hsign _) hoperator
      have hwhole := Cut.cons (Token.munch_opener _) hleft
      simpa [bracketed] using hwhole

/-- The canonical text of a well-formed tree is read as that tree. -/
theorem parse_canonical {tree : Expr} (hwellFormed : tree.WellFormed) :
    parse tree.canonical = .ok tree := by
  obtain ⟨tokens, hatom, hcut⟩ := cut_bracketed hwellFormed
  replace hcut := hcut [] [] (by simp [Stops]) .nil
  simp only [List.append_nil] at hcut
  have hne : tree.bracketed ≠ [] := by
    intro hempty
    rw [hempty] at hcut
    cases hcut with
    | nil => exact hatom.ne_nil rfl
    | cons hmunch => cases hmunch
  rw [canonical_eq_bracketed, parse_eq_ok_iff]
  exact ⟨tokens, Token.ofText_of_cut hcut hne, ofTokens_of_derives (derives_sum_of_atom hatom)⟩

/-! ## Trees that are read -/

theorem Listed.not_isParen {tree : Expr} {listing : List Token} (hlisted : Listed tree listing) :
    ∀ token ∈ listing, ¬ token.kind.isParen := by
  induction hlisted with
  | @operand token hoperand =>
      rcases Token.Kind.isOperand_iff.mp hoperand with hkind | hkind <;>
        simp [hkind, Token.Kind.isParen]
  | operator hsign _ _ ihleft ihright =>
      intro token htoken
      rcases List.mem_append.mp htoken with htoken | htoken
      · exact (List.mem_append.mp htoken).elim (ihleft token) (ihright token)
      · simp [List.mem_singleton.mp htoken, hsign, Token.Kind.isParen]

theorem Listed.wellFormed {tree : Expr} {listing : List Token} (hlisted : Listed tree listing)
    (htokens : ∀ token ∈ listing, token.WellFormed) : tree.WellFormed := by
  induction hlisted with
  | @operand token hoperand =>
      have htoken := htokens token (by simp)
      rcases Token.Kind.isOperand_iff.mp hoperand with hkind | hkind
      · exact .inl (by simpa [Token.WellFormed, hkind] using htoken)
      · exact .inr (by simpa [Token.WellFormed, hkind] using htoken)
  | @operator sign _ _ _ _ hsign _ _ ihleft ihright =>
      have htoken := htokens sign (by simp)
      refine ⟨by simpa [Token.WellFormed, hsign] using htoken, ?_, ?_⟩
      · exact ihleft fun token hmem => htokens token (by simp [hmem])
      · exact ihright fun token hmem => htokens token (by simp [hmem])

/-- The tokens of a text come well formed out of the arrangement as well. -/
theorem Listed.wellFormed_of_ofText {text : Text} {tree : Expr} {tokens listing : List Token}
    (hlisted : Listed tree listing) (hcut : Token.ofText text = .ok tokens)
    (harranged : Rpn.ofInfix tokens = .ok listing) : ∀ token ∈ listing, token.WellFormed := by
  intro token htoken
  have hterm : token ∈ Rpn.terms listing := by
    simpa [Rpn.terms] using ⟨htoken, by simpa using hlisted.not_isParen token htoken⟩
  have harrived := List.mem_of_mem_filter ((Rpn.terms_ofInfix harranged).mem_iff.mp hterm)
  exact (Token.ofText_eq_ok_iff.mp hcut).2.wellFormed token harrived

/-- The tokens of a text that is read are arranged into a listing of its tree. -/
theorem exists_listing_of_parse {text : Text} {tree : Expr} (hparse : parse text = .ok tree) :
    ∃ listing, Token.ofText text >>= Rpn.ofInfix = .ok listing ∧ Listed tree listing ∧
      ∀ token ∈ listing, token.WellFormed := by
  obtain ⟨tokens, hcut, hread⟩ := parse_eq_ok_iff.mp hparse
  obtain ⟨listing, harranged, hlisted⟩ := ofTokens_eq_ok_iff.mp hread
  refine ⟨listing, ?_, hlisted, hlisted.wellFormed_of_ofText hcut harranged⟩
  rw [hcut]
  exact harranged

/-- Whatever is read is well formed. -/
theorem wellFormed_of_parse {text : Text} {tree : Expr} (hparse : parse text = .ok tree) :
    tree.WellFormed := by
  obtain ⟨listing, -, hlisted, htokens⟩ := exists_listing_of_parse hparse
  exact hlisted.wellFormed htokens

/-- Well-formed trees are told apart by their canonical texts. -/
theorem canonical_injective {left right : Expr} (hleft : left.WellFormed)
    (hright : right.WellFormed) (hcanonical : left.canonical = right.canonical) : left = right := by
  have hread := parse_canonical hleft
  rw [hcanonical, parse_canonical hright] at hread
  cases hread
  rfl

/-- The canonical text of a well-formed tree is read as that tree.  All trees that are read are
well formed, so reading the canonical text of one and writing it again changes nothing. -/
theorem parse_canonical_and_wellFormed :
    (∀ tree : Expr, tree.WellFormed → parse tree.canonical = .ok tree) ∧
      ∀ (text : Text) (tree : Expr), parse text = .ok tree →
        tree.WellFormed ∧ canonical <$> parse tree.canonical = .ok tree.canonical := by
  constructor
  · intro tree hwellFormed
    exact parse_canonical hwellFormed
  · intro text tree hparse
    have hwellFormed := wellFormed_of_parse hparse
    refine ⟨hwellFormed, ?_⟩
    rw [parse_canonical hwellFormed]
    rfl

theorem parse_canonical_and_wellFormed_powers :
    ∃ tree, parse " 3.14^(x/07)".toList = .ok tree ∧ tree.WellFormed ∧
      parse tree.canonical = .ok tree ∧
      canonical <$> parse tree.canonical = .ok "(3.14^(x/07))".toList := by
  have hparse : parse " 3.14^(x/07)".toList =
      .ok (.operator ['^'] (.operand "3.14".toList)
        (.operator ['/'] (.operand ['x']) (.operand "07".toList))) := by decide +kernel
  obtain ⟨hwellFormed, hfixed⟩ := parse_canonical_and_wellFormed.2 _ _ hparse
  refine ⟨_, hparse, hwellFormed, parse_canonical_and_wellFormed.1 _ hwellFormed, ?_⟩
  rw [hfixed]
  decide +kernel

end Formulary.Expr
