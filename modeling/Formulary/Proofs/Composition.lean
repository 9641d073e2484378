import Formulary.Proofs.Canonical

/-!
# Formulas inside of formulas

A text that is read stays what it is when it is put in parentheses and used as an operand.  No token
grows into the parentheses around it, and the arrangement of its tokens does not touch what lies on
the stack below the opener.  So the group behaves like an atom of the grammar, although its tokens
need not be a sentence.
-/

namespace Formulary

open Grammar (Joins Stratum mem_operatorSigns_iff not_joins_atom ofTokens_of_arranges
  operatorSigns)

/-! ## Texts in parentheses -/

namespace Text

def group (text : Text) : Text :=
  '(' :: (text ++ [')'])

/-- Two texts in parentheses with an operator in between. -/
def joined (left sign right : Text) : Text :=
  left.group ++ (sign ++ right.group)

theorem squeeze_group (text : Text) : text.group.squeeze = text.squeeze.group := by
  simp [group, squeeze, isBlank_eq_false]

theorem squeeze_joined {sign : Text} (hsign : sign ∈ operatorSigns) (left right : Text) :
    (left.joined sign right).squeeze = left.squeeze.joined sign right.squeeze := by
  have hwellFormed : Token.WellFormed ⟨.operator, sign⟩ := hsign
  have hsolid : sign.squeeze = sign := squeeze_eq_self hwellFormed.solid
  rw [joined, squeeze, List.filter_append, List.filter_append, ← squeeze, ← squeeze, ← squeeze,
    squeeze_group, squeeze_group, hsolid, joined]

end Text

/-! ## Cutting -/

namespace Token

open Formulary.Expr (Stops)

theorem mem_head?_append {after rest : Text} {c : Char} (hc : c ∈ (after ++ rest).head?) :
    c ∈ after.head? ∨ c ∈ rest.head? := by
  cases after with
  | nil => exact .inr hc
  | cons d others => exact .inl hc

/-- A text that ends in a point does not get a fraction from what stops it. -/
theorem isDigit_eq_false_of_append {after rest more : Text} {d : Char}
    (hpoint : ∀ d more, after = '.' :: d :: more → d.isDigit = false) (hstops : Stops rest)
    (heq : after ++ rest = '.' :: d :: more) : d.isDigit = false := by
  cases after with
  | nil =>
      rw [List.nil_append] at heq
      exact absurd rfl (hstops '.' (by rw [heq]; rfl)).2.2
  | cons c others =>
      obtain ⟨rfl, hothers⟩ := List.cons.inj heq
      cases others with
      | nil =>
          obtain rfl : rest = d :: more := hothers
          exact (hstops d rfl).1
      | cons x others =>
          obtain ⟨rfl, -⟩ := List.cons.inj hothers
          exact hpoint x others rfl

theorem Ends.append {token : Token} {after rest : Text} (hends : Ends token after)
    (hstops : Stops rest) : Ends token (after ++ rest) where
  number hkind c hc := (mem_head?_append hc).elim (hends.number hkind c) fun hc => (hstops c hc).1
  name hkind c hc := (mem_head?_append hc).elim (hends.name hkind c) fun hc => (hstops c hc).2.1
  fraction hdigits _ _ := isDigit_eq_false_of_append (hends.fraction hdigits) hstops

/-- The first token stays the same in front of a text that cannot prolong it. -/
theorem munch_append {text after rest : Text} {token : Token}
    (hmunch : munch text = some (token, after)) (hstops : Stops rest) :
    munch (text ++ rest) = some (token, after ++ rest) := by
  obtain ⟨hwellFormed, hends, rfl⟩ := munch_eq_some_iff.mp hmunch
  rw [List.append_assoc]
  exact munch_of_ends hwellFormed (hends.append hstops)

theorem Cut.append {text rest : Text} {tokens cut : List Token} (hcut : Cut text tokens)
    (hstops : Stops rest) (hrest : Cut rest cut) : Cut (text ++ rest) (tokens ++ cut) := by
  induction hcut with
  | nil => exact hrest
  | cons hmunch _ ih => exact .cons (munch_append hmunch hstops) ih

def group (tokens : List Token) : List Token :=
  ⟨.opener, ['(']⟩ :: (tokens ++ [⟨.closer, [')']⟩])

/-- A closer prolongs nothing and is prolonged by nothing, so anything may follow a group. -/
theorem Cut.group {text rest : Text} {tokens cut : List Token} (hcut : Cut text tokens)
    (hrest : Cut rest cut) : Cut (text.group ++ rest) (group tokens ++ cut) := by
  have hstops : Stops (')' :: rest) := by simp [Stops]
  have hinside := hcut.append hstops (.cons (munch_closer rest) hrest)
  simpa [Text.group, Token.group] using Cut.cons (munch_opener _) hinside

theorem ofText_group {text : Text} {tokens : List Token} (htext : ofText text = .ok tokens) :
    ofText text.group = .ok (group tokens) := by
  obtain ⟨-, hcut⟩ := ofText_eq_ok_iff.mp htext
  rw [ofText_eq_ok_iff, Text.squeeze_group]
  constructor
  · simp [Text.group]
  · simpa using hcut.group .nil

theorem ofText_joined {left right sign : Text} {first second : List Token}
    (hleft : ofText left = .ok first) (hright : ofText right = .ok second)
    (hsign : sign ∈ operatorSigns) :
    ofText (left.joined sign right) = .ok (group first ++ ⟨.operator, sign⟩ :: group second) := by
  obtain ⟨-, hcutLeft⟩ := ofText_eq_ok_iff.mp hleft
  obtain ⟨-, hcutRight⟩ := ofText_eq_ok_iff.mp hright
  rw [ofText_eq_ok_iff, Text.squeeze_joined hsign]
  constructor
  · simp [Text.joined, Text.group]
  · apply hcutLeft.group
    apply Cut.cons (munch_operator hsign _)
    simpa using hcutRight.group .nil

end Token

/-! ## Arrangement above an opener -/

namespace Rpn

variable {opener closer : Token}

/-- Nothing is released through an opener. -/
theorem release_above (hopener : opener.kind = .opener) {incoming : Text}
    {stack written stack' written' : List Token}
    (hrelease : release incoming stack written = .ok (stack', written'))
    (below before : List Token) :
    release incoming (stack ++ opener :: below) (written ++ before) =
      .ok (stack' ++ opener :: below, written' ++ before) := by
  fun_induction release incoming stack written with
  | case1 written =>
      cases hrelease
      rw [List.nil_append, release, if_neg (by simp [hopener])]
  | case2 top stack written hkind hfirst ih =>
      rw [List.cons_append, release, if_pos hkind, hfirst]
      exact ih hrelease
  | case3 top stack written hkind hfirst =>
      cases hrelease
      rw [List.cons_append, release, if_pos hkind, hfirst]
  | case4 => cases hrelease
  | case5 top stack written hkind =>
      cases hrelease
      rw [List.cons_append, release, if_neg hkind]

/-- Where an opener is found, what lies below it does not matter. -/
theorem close_above {stack written stack' written' : List Token}
    (hclose : close stack written = .ok (stack', written')) (below before : List Token) :
    close (stack ++ below) (written ++ before) = .ok (stack' ++ below, written' ++ before) := by
  fun_induction close stack written with
  | case1 => cases hclose
  | case2 top stack written hkind =>
      cases hclose
      rw [List.cons_append, close, if_pos hkind]
  | case3 top stack written hkind ih =>
      rw [List.cons_append, close, if_neg hkind]
      exact ih hclose

/-- What is drained at the end is written out by the closer of a group. -/
theorem close_of_drain (hopener : opener.kind = .opener) {stack written listing : List Token}
    (hdrain : drain stack written = .ok listing) (below before : List Token) :
    close (stack ++ opener :: below) (written ++ before) =
      .ok (below, listing.reverse ++ before) := by
  fun_induction drain stack written with
  | case1 written =>
      cases hdrain
      rw [List.nil_append, close, if_pos hopener, List.reverse_reverse]
  | case2 => cases hdrain
  | case3 top stack written hkind ih =>
      have hnot : top.kind ≠ .opener := by
        intro hopener
        simp [hopener, Token.Kind.isParen] at hkind
      rw [List.cons_append, close, if_neg hnot]
      exact ih hdrain

/-- Tokens that are arranged into a listing have it written when their group is closed. -/
theorem arrange_group (hopener : opener.kind = .opener) (hcloser : closer.kind = .closer)
    {tokens stack written listing : List Token}
    (harrange : arrange tokens stack written = .ok listing) (rest below before : List Token) :
    arrange (tokens ++ closer :: rest) (stack ++ opener :: below) (written ++ before) =
      arrange rest below (listing.reverse ++ before) := by
  fun_induction arrange tokens stack written with
  | case1 stack written =>
      exact arrange_closer hcloser (close_of_drain hopener harrange below before) rest
  | case2 token tokens stack written hkind ih | case3 token tokens stack written hkind ih =>
      rw [List.cons_append, arrange_operand (by simp [Token.Kind.isOperand_iff, hkind])]
      exact ih harrange
  | case4 token tokens stack written hkind ih =>
      rw [List.cons_append, arrange_opener hkind]
      exact ih harrange
  | case5 token tokens stack written hkind stack' written' hrelease ih =>
      rw [List.cons_append,
        arrange_operator hkind (release_above hopener hrelease below before)]
      exact ih harrange
  | case6 => cases harrange
  | case7 token tokens stack written hkind stack' written' hclose ih =>
      rw [List.cons_append, arrange_closer hkind (close_above hclose _ before)]
      exact ih harrange
  | case8 => cases harrange

/-- In parentheses all tokens that are read are arranged like an atom. -/
theorem arranges_group (hopener : opener.kind = .opener) (hcloser : closer.kind = .closer)
    {tokens : List Token} {tree : Expr} (hread : Expr.ofTokens tokens = .ok tree) :
    Arranges .atom (opener :: (tokens ++ [closer])) tree := by
  obtain ⟨listing, harranged, hlisted⟩ := Expr.ofTokens_eq_ok_iff.mp hread
  refine ⟨listing, [], by simpa using hlisted, by simp, ?_⟩
  intro rest stack written _
  rw [List.cons_append, arrange_opener hopener, List.append_assoc]
  exact arrange_group hopener hcloser (arrange_of_ofInfix harranged) rest stack written

/-- Two atoms and an operator between them, whichever stratum the operator is of. -/
theorem Arranges.join {stratum : Stratum} {left right : List Token} {sign : Token}
    {first second : Expr} (hleft : Arranges .atom left first) (hsign : Joins stratum sign)
    (hright : Arranges .atom right second) :
    Arranges .sum (left ++ sign :: right) (.operator sign.text first second) := by
  cases stratum with
  | sum =>
      have hsum : Arranges .sum left first := hleft.loosen (by decide)
      exact hsum.joinLeft hsign hright (by decide) (by decide)
  | product =>
      have hproduct : Arranges .product left first := hleft.loosen (by decide)
      have hjoined := hproduct.joinLeft hsign hright (by decide) (by decide)
      exact hjoined.loosen (by decide)
  | power =>
      have hpower : Arranges .power right second := hright.loosen (by decide)
      have hjoined := hleft.joinPower hsign hpower
      exact hjoined.loosen (by decide)
  | atom => exact absurd hsign (not_joins_atom sign)

end Rpn

/-! ## Reading -/

namespace Expr

theorem parse_group {text : Text} {tree : Expr} (hparse : parse text = .ok tree) :
    parse text.group = .ok tree := by
  obtain ⟨tokens, htokens, hread⟩ := parse_eq_ok_iff.mp hparse
  rw [parse_eq_ok_iff]
  refine ⟨Token.group tokens, Token.ofText_group htokens, ?_⟩
  apply ofTokens_of_arranges
  · exact (Rpn.arranges_group rfl rfl hread).loosen (by decide)
  · simp [Token.group]

theorem parse_joined {left right sign : Text} {first second : Expr}
    (hleft : parse left = .ok first) (hright : parse right = .ok second)
    (hsign : sign ∈ operatorSigns) :
    parse (left.joined sign right) = .ok (.operator sign first second) := by
  obtain ⟨tokens, htokens, hread⟩ := parse_eq_ok_iff.mp hleft
  obtain ⟨others, hothers, hread'⟩ := parse_eq_ok_iff.mp hright
  obtain ⟨stratum, hmem⟩ := mem_operatorSigns_iff.mp hsign
  rw [parse_eq_ok_iff]
  refine ⟨_, Token.ofText_joined htokens hothers hsign, ?_⟩
  apply ofTokens_of_arranges
  · have hgroup : Rpn.Arranges .atom (Token.group tokens) first :=
      Rpn.arranges_group rfl rfl hread
    have hgroup' : Rpn.Arranges .atom (Token.group others) second :=
      Rpn.arranges_group rfl rfl hread'
    exact hgroup.join ⟨rfl, hmem⟩ hgroup'
  · simp

/-- Equivalent texts are those of one tree. -/
theorem equivalent_eq_true_iff {left right : Text} :
    equivalent left right = .ok true ↔
      ∃ tree, parse left = .ok tree ∧ parse right = .ok tree := by
  unfold equivalent
  simp only [bind_eq_ok_iff]
  constructor
  · rintro ⟨first, hfirst, second, hsecond, hsame⟩
    have hcanonical : first.canonical = second.canonical := by
      simpa using Except.ok.inj hsame
    obtain rfl := canonical_injective (wellFormed_of_parse hfirst) (wellFormed_of_parse hsecond)
      hcanonical
    exact ⟨first, hfirst, hsecond⟩
  · rintro ⟨tree, hleft, hright⟩
    refine ⟨tree, hleft, tree, hright, ?_⟩
    simp [pure, Except.pure]

/-- A text in parentheses is read as the same tree, and two texts in parentheses with an operator in
between as the tree of the operator.  So equivalent texts may be put in for each other. -/
theorem parse_composes {left right sign : Text} {first second : Expr}
    (hleft : parse left = .ok first) (hright : parse right = .ok second)
    (hsign : sign ∈ operatorSigns) :
    parse left.group = .ok first ∧
      parse (left.joined sign right) = .ok (.operator sign first second) ∧
      ∀ left' right', equivalent left left' = .ok true → equivalent right right' = .ok true →
        equivalent left.group left'.group = .ok true ∧
          equivalent (left.joined sign right) (left'.joined sign right') = .ok true := by
  refine ⟨parse_group hleft, parse_joined hleft hright hsign, ?_⟩
  intro left' right' hsameLeft hsameRight
  obtain ⟨tree, htree, htree'⟩ := equivalent_eq_true_iff.mp hsameLeft
  obtain ⟨other, hother, hother'⟩ := equivalent_eq_true_iff.mp hsameRight
  constructor
  · rw [equivalent_eq_true_iff]
    exact ⟨tree, parse_group htree, parse_group htree'⟩
  · rw [equivalent_eq_true_iff]
    exact ⟨_, parse_joined htree hother hsign, parse_joined htree' hother' hsign⟩

/-- Operands that are no sentences, and spellings of theirs that are. -/
theorem parse_composes_juxtaposed :
    parse "(a 1 +)".toList = .ok (.operator ['+'] (.operand ['a']) (.operand ['1'])) ∧
      parse "(a 1 +)^(() b)".toList =
        .ok (.operator ['^'] (.operator ['+'] (.operand ['a']) (.operand ['1'])) (.operand ['b'])) ∧
      equivalent "(a 1 +)^(() b)".toList "((a)+1)^(b)".toList = .ok true := by
  have hleft : parse "a 1 +".toList =
      .ok (.operator ['+'] (.operand ['a']) (.operand ['1'])) := by decide +kernel
  have hright : parse "() b".toList = .ok (.operand ['b']) := by decide +kernel
  have hsign : ['^'] ∈ operatorSigns := by decide
  obtain ⟨hgroup, hjoined, hsame⟩ := parse_composes hleft hright hsign
  refine ⟨hgroup, hjoined, ?_⟩
  exact (hsame "(a)+1".toList "b".toList (by decide +kernel) (by decide +kernel)).2

end Expr

end Formulary
