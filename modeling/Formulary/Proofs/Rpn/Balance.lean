import Formulary.Proofs.Grammar
import Formulary.Proofs.Rpn.Conservation

/-!
# Parentheses that do not match

Tokens whose operators are all known are rejected for their parentheses only.  The openers on the
stack are the parentheses that are open, whatever else waits between them, so the fault depends on
the nesting of the tokens alone, and the nesting on the number of openers and closers in front of
each token.
-/

namespace Formulary.Rpn

open Formulary.Grammar (operatorSigns)

variable {fault : Fault}

/-! ## Nesting -/

/-- How many parentheses are open behind some tokens, if `depth` are open before them; nothing if a
closer comes where none is open. -/
def nesting : Nat → List Token → Option Nat
  | depth, [] => some depth
  | depth, token :: rest =>
    match token.kind with
    | .opener => nesting (depth + 1) rest
    | .closer =>
      match depth with
      | 0 => none
      | depth + 1 => nesting depth rest
    | _ => nesting depth rest

theorem nesting_opener {opener : Token} (hopener : opener.kind = .opener) (depth : Nat)
    (rest : List Token) : nesting depth (opener :: rest) = nesting (depth + 1) rest := by
  simp only [nesting, hopener]

theorem nesting_closer {closer : Token} (hcloser : closer.kind = .closer) (depth : Nat)
    (rest : List Token) : nesting (depth + 1) (closer :: rest) = nesting depth rest := by
  simp only [nesting, hcloser]

theorem nesting_closer_zero {closer : Token} (hcloser : closer.kind = .closer)
    (rest : List Token) : nesting 0 (closer :: rest) = none := by
  simp only [nesting, hcloser]

theorem nesting_term {token : Token} (hterm : ¬ token.kind.isParen) (depth : Nat)
    (rest : List Token) : nesting depth (token :: rest) = nesting depth rest := by
  cases hkind : token.kind <;> simp_all [nesting, Token.Kind.isParen]

def openers (stack : List Token) : Nat :=
  stack.countP fun token => token.kind = .opener

theorem openers_append (stack below : List Token) :
    openers (stack ++ below) = openers stack + openers below :=
  List.countP_append

theorem openers_cons {top : Token} (hopener : top.kind = .opener) (stack : List Token) :
    openers (top :: stack) = openers stack + 1 :=
  List.countP_cons_of_pos (by simpa using hopener)

theorem openers_cons_of_ne {top : Token} (hother : top.kind ≠ .opener) (stack : List Token) :
    openers (top :: stack) = openers stack :=
  List.countP_cons_of_neg (by simpa using hother)

theorem openers_eq_zero {stack : List Token} (hstack : ∀ token ∈ stack, token.kind ≠ .opener) :
    openers stack = 0 :=
  List.countP_eq_zero.mpr (by simpa using hstack)

/-- A release leaves every opener where it is. -/
theorem openers_release {incoming : Text} {stack written stack' written' : List Token}
    (hrelease : release incoming stack written = .ok (stack', written')) :
    openers stack = openers stack' := by
  obtain ⟨moved, rfl, -, hmoved⟩ := release_eq_ok hrelease
  have hnone : openers moved = 0 := by
    apply openers_eq_zero
    intro token htoken
    simp [hmoved token htoken]
  rw [openers_append, hnone, Nat.zero_add]

/-- A closer takes one opener off the stack. -/
theorem openers_close {stack written stack' written' : List Token}
    (hclose : close stack written = .ok (stack', written')) :
    openers stack = openers stack' + 1 := by
  obtain ⟨moved, opener, rfl, -, hopener, hmoved⟩ := close_eq_ok hclose
  rw [openers_append, openers_eq_zero hmoved, openers_cons hopener, Nat.zero_add]

/-- The openers on the stack are the parentheses that are open, and in the end none is. -/
theorem nesting_arrange {tokens stack written listing : List Token}
    (harrange : arrange tokens stack written = .ok listing) :
    nesting (openers stack) tokens = some 0 := by
  fun_induction arrange tokens stack written with
  | case1 stack written =>
      obtain ⟨-, hstack⟩ := drain_eq_ok harrange
      rw [nesting, openers_eq_zero]
      intro token htoken hopener
      exact hstack token htoken (by simp [hopener, Token.Kind.isParen])
  | case2 token rest stack written hkind ih | case3 token rest stack written hkind ih =>
      rw [nesting_term (by simp [hkind, Token.Kind.isParen])]
      exact ih harrange
  | case4 token rest stack written hkind ih =>
      rw [nesting_opener hkind, ← openers_cons hkind]
      exact ih harrange
  | case5 token rest stack written hkind stack' written' hrelease ih =>
      have hother : token.kind ≠ .opener := by simp [hkind]
      rw [nesting_term (by simp [hkind, Token.Kind.isParen]), openers_release hrelease,
        ← openers_cons_of_ne hother]
      exact ih harrange
  | case6 => cases harrange
  | case7 token rest stack written hkind stack' written' hclose ih =>
      rw [openers_close hclose, nesting_closer hkind]
      exact ih harrange
  | case8 => cases harrange

theorem nesting_ofInfix {tokens listing : List Token} (harranged : ofInfix tokens = .ok listing) :
    nesting 0 tokens = some 0 :=
  nesting_arrange (arrange_of_ofInfix harranged)

/-! ## Known operators -/

def Known (tokens : List Token) : Prop :=
  ∀ token ∈ tokens, token.kind = .operator → token.text ∈ operatorSigns

theorem known_cons_iff {token : Token} {rest : List Token} :
    Known (token :: rest) ↔ (token.kind = .operator → token.text ∈ operatorSigns) ∧ Known rest :=
  List.forall_mem_cons

theorem known_append_iff {tokens others : List Token} :
    Known (tokens ++ others) ↔ Known tokens ∧ Known others :=
  List.forall_mem_append

theorem exists_precedence {sign : Text} (hsign : sign ∈ operatorSigns) :
    ∃ strength, precedence sign = .ok strength := by
  simp only [operatorSigns, List.mem_cons, List.not_mem_nil, or_false] at hsign
  rcases hsign with rfl | rfl | rfl | rfl | rfl <;> exact ⟨_, rfl⟩

theorem exists_goesFirst {top incoming : Text} (htop : top ∈ operatorSigns)
    (hincoming : incoming ∈ operatorSigns) : ∃ first, goesFirst top incoming = .ok first := by
  obtain ⟨waiting, hwaiting⟩ := exists_precedence htop
  obtain ⟨arriving, harriving⟩ := exists_precedence hincoming
  rw [goesFirst, hwaiting, harriving]
  exact ⟨_, rfl⟩

/-- Among known operators a release does not fail. -/
theorem release_ne_error {incoming : Text} (hincoming : incoming ∈ operatorSigns)
    {stack : List Token} (hstack : Known stack) (written : List Token) :
    release incoming stack written ≠ .error fault := by
  fun_induction release incoming stack written with
  | case1 => simp
  | case2 top stack written _ _ ih => exact ih (known_cons_iff.mp hstack).2
  | case3 => simp
  | case4 top stack written hkind cause hgoesFirst =>
      have htop : top.text ∈ operatorSigns := (known_cons_iff.mp hstack).1 hkind
      obtain ⟨first, hfirst⟩ := exists_goesFirst htop hincoming
      rw [hfirst] at hgoesFirst
      cases hgoesFirst
  | case5 => simp

/-! ## Nesting decides -/

/-- What an arrangement comes to, by the number of parentheses that are open behind its tokens. -/
inductive Verdict : Option Nat → Except Fault (List Token) → Prop
  | unopened : Verdict none (.error (.malformed .missingOpener))
  | unclosed (depth : Nat) : Verdict (some (depth + 1)) (.error (.malformed .missingCloser))
  | balanced (listing : List Token) : Verdict (some 0) (.ok listing)

theorem close_eq_error {stack written : List Token} (hclose : close stack written = .error fault) :
    openers stack = 0 ∧ fault = .malformed .missingOpener := by
  fun_induction close stack written with
  | case1 =>
      cases hclose
      exact ⟨rfl, rfl⟩
  | case2 => cases hclose
  | case3 top stack written hkind ih =>
      rw [openers_cons_of_ne hkind]
      exact ih hclose

/-- At the end each opener that waits is one too many. -/
theorem verdict_drain {stack : List Token} (hstack : ∀ token ∈ stack, token.kind ≠ .closer)
    (written : List Token) : Verdict (some (openers stack)) (drain stack written) := by
  fun_induction drain stack written with
  | case1 written => exact .balanced written.reverse
  | case2 top stack written hparen =>
      have hopener : top.kind = .opener := by
        have hcloser := hstack top List.mem_cons_self
        cases hkind : top.kind <;> simp_all [Token.Kind.isParen]
      rw [openers_cons hopener]
      exact .unclosed (openers stack)
  | case3 top stack written hparen ih =>
      have hkind : top.kind ≠ .opener := by
        intro hopener
        simp [hopener, Token.Kind.isParen] at hparen
      rw [openers_cons_of_ne hkind]
      exact ih (List.forall_mem_cons.mp hstack).2

/-- The openers on the stack are the parentheses that are open, so what becomes of the tokens is
decided by their nesting behind as many. -/
theorem verdict_arrange {tokens stack : List Token} (htokens : Known tokens) (hknown : Known stack)
    (hstack : ∀ token ∈ stack, token.kind ≠ .closer) (written : List Token) :
    Verdict (nesting (openers stack) tokens) (arrange tokens stack written) := by
  fun_induction arrange tokens stack written with
  | case1 stack written => exact verdict_drain hstack written
  | case2 token rest stack written hkind ih | case3 token rest stack written hkind ih =>
      rw [nesting_term (by simp [hkind, Token.Kind.isParen])]
      exact ih (known_cons_iff.mp htokens).2 hknown hstack
  | case4 token rest stack written hkind ih =>
      rw [nesting_opener hkind, ← openers_cons hkind]
      obtain ⟨htoken, hrest⟩ := known_cons_iff.mp htokens
      exact ih hrest (known_cons_iff.mpr ⟨htoken, hknown⟩)
        (List.forall_mem_cons.mpr ⟨by simp [hkind], hstack⟩)
  | case5 token rest stack written hkind stack' written' hrelease ih =>
      -- Neither the operators that are released nor the one that waits count as open.
      have hother : token.kind ≠ .opener := by simp [hkind]
      rw [nesting_term (by simp [hkind, Token.Kind.isParen]), openers_release hrelease,
        ← openers_cons_of_ne hother]
      obtain ⟨htoken, hrest⟩ := known_cons_iff.mp htokens
      obtain ⟨moved, rfl, -, -⟩ := release_eq_ok hrelease
      exact ih hrest (known_cons_iff.mpr ⟨htoken, (known_append_iff.mp hknown).2⟩)
        (List.forall_mem_cons.mpr ⟨by simp [hkind], (List.forall_mem_append.mp hstack).2⟩)
  | case6 token rest stack written hkind cause hrelease =>
      have hsign : token.text ∈ operatorSigns := (known_cons_iff.mp htokens).1 hkind
      exact absurd hrelease (release_ne_error hsign hknown written)
  | case7 token rest stack written hkind stack' written' hclose ih =>
      rw [openers_close hclose, nesting_closer hkind]
      obtain ⟨moved, opener, rfl, -, -, -⟩ := close_eq_ok hclose
      apply ih (known_cons_iff.mp htokens).2
      · exact (known_cons_iff.mp (known_append_iff.mp hknown).2).2
      · exact (List.forall_mem_cons.mp (List.forall_mem_append.mp hstack).2).2
  | case8 token rest stack written hkind cause hclose =>
      obtain ⟨hnone, rfl⟩ := close_eq_error hclose
      rw [hnone, nesting_closer_zero hkind]
      exact .unopened

theorem verdict_ofInfix {tokens : List Token} (hne : tokens ≠ []) (htokens : Known tokens) :
    Verdict (nesting 0 tokens) (ofInfix tokens) := by
  have hknown : Known [] := by simp [Known]
  have hverdict := verdict_arrange htokens hknown (by simp) []
  rwa [ofInfix, if_neg (by simpa using hne)]

/-! ## Counting openers and closers -/

def closers (tokens : List Token) : Nat :=
  tokens.countP fun token => token.kind = .closer

theorem closers_cons {closer : Token} (hcloser : closer.kind = .closer) (rest : List Token) :
    closers (closer :: rest) = closers rest + 1 :=
  List.countP_cons_of_pos (by simpa using hcloser)

theorem closers_cons_of_ne {token : Token} (hother : token.kind ≠ .closer) (rest : List Token) :
    closers (token :: rest) = closers rest :=
  List.countP_cons_of_neg (by simpa using hother)

/-- Some first tokens close more parentheses than they open, although `depth` are open before. -/
def Overcloses (depth : Nat) (tokens : List Token) : Prop :=
  ∃ front, front <+: tokens ∧ depth + openers front < closers front

theorem not_overcloses_nil (depth : Nat) : ¬ Overcloses depth [] := by
  rintro ⟨front, hfront, hmore⟩
  rw [List.prefix_nil.mp hfront] at hmore
  exact Nat.not_lt_zero _ hmore

/-- A first token is taken away if `depth` is changed by what it opens or closes. -/
theorem overcloses_cons_iff {depth depth' : Nat} {token : Token} {rest : List Token}
    (hcount : ∀ front, depth + openers (token :: front) < closers (token :: front) ↔
      depth' + openers front < closers front) :
    Overcloses depth (token :: rest) ↔ Overcloses depth' rest := by
  constructor
  · rintro ⟨front, hfront, hmore⟩
    rcases List.prefix_cons_iff.mp hfront with rfl | ⟨inner, rfl, hinner⟩
    · exact absurd hmore (Nat.not_lt_zero _)
    · exact ⟨inner, hinner, (hcount inner).mp hmore⟩
  · rintro ⟨front, hfront, hmore⟩
    exact ⟨token :: front, List.cons_prefix_cons.mpr ⟨rfl, hfront⟩, (hcount front).mpr hmore⟩

theorem overcloses_opener {opener : Token} (hopener : opener.kind = .opener) {depth : Nat}
    {rest : List Token} : Overcloses depth (opener :: rest) ↔ Overcloses (depth + 1) rest := by
  apply overcloses_cons_iff
  intro front
  rw [openers_cons hopener, closers_cons_of_ne (by simp [hopener])]
  omega

theorem overcloses_closer {closer : Token} (hcloser : closer.kind = .closer) {depth : Nat}
    {rest : List Token} : Overcloses (depth + 1) (closer :: rest) ↔ Overcloses depth rest := by
  apply overcloses_cons_iff
  intro front
  rw [openers_cons_of_ne (by simp [hcloser]), closers_cons hcloser]
  omega

theorem overcloses_closer_zero {closer : Token} (hcloser : closer.kind = .closer)
    (rest : List Token) : Overcloses 0 (closer :: rest) := by
  refine ⟨[closer], by simp, ?_⟩
  rw [openers_cons_of_ne (by simp [hcloser]), closers_cons hcloser]
  simp [openers]

theorem overcloses_term {token : Token} (hopener : token.kind ≠ .opener)
    (hcloser : token.kind ≠ .closer) {depth : Nat} {rest : List Token} :
    Overcloses depth (token :: rest) ↔ Overcloses depth rest := by
  apply overcloses_cons_iff
  intro front
  rw [openers_cons_of_ne hopener, closers_cons_of_ne hcloser]

/-- A closer comes where no parenthesis is open exactly if some first tokens close too much. -/
theorem nesting_eq_none_iff {depth : Nat} {tokens : List Token} :
    nesting depth tokens = none ↔ Overcloses depth tokens := by
  fun_induction nesting depth tokens with
  | case1 depth => simp [not_overcloses_nil]
  | case2 depth token rest hkind ih => rw [overcloses_opener hkind, ih]
  | case3 token rest hkind => simp [overcloses_closer_zero hkind]
  | case4 token rest hkind depth ih => rw [overcloses_closer hkind, ih]
  | case5 depth token rest hopener hcloser ih => rw [overcloses_term hopener hcloser, ih]

/-- What is open behind some tokens makes up for the openers that exceed the closers. -/
theorem openers_eq_of_nesting {depth remaining : Nat} {tokens : List Token}
    (hnesting : nesting depth tokens = some remaining) :
    depth + openers tokens = remaining + closers tokens := by
  fun_induction nesting depth tokens with
  | case1 depth =>
      cases hnesting
      rfl
  | case2 depth token rest hkind ih =>
      have hrest := ih hnesting
      rw [openers_cons hkind, closers_cons_of_ne (by simp [hkind])]
      omega
  | case3 => cases hnesting
  | case4 token rest hkind depth ih =>
      have hrest := ih hnesting
      rw [openers_cons_of_ne (by simp [hkind]), closers_cons hkind]
      omega
  | case5 depth token rest hopener hcloser ih =>
      rw [openers_cons_of_ne hopener, closers_cons_of_ne hcloser]
      exact ih hnesting

/-- Tokens whose operators are known lack an opener exactly if some first tokens close more
parentheses than they open.  They lack a closer exactly if no first tokens do so and all tokens open
more than they close.  In all other cases they are listed without any parenthesis. -/
theorem ofInfix_balance_iff {tokens : List Token} (hne : tokens ≠ []) (hknown : Known tokens) :
    (ofInfix tokens = .error (.malformed .missingOpener) ↔ Overcloses 0 tokens) ∧
      (ofInfix tokens = .error (.malformed .missingCloser) ↔
        ¬ Overcloses 0 tokens ∧ closers tokens < openers tokens) ∧
      ((∃ listing, ofInfix tokens = .ok listing ∧ ∀ token ∈ listing, ¬ token.kind.isParen) ↔
        ¬ Overcloses 0 tokens ∧ ¬ closers tokens < openers tokens) := by
  have hverdict := verdict_ofInfix hne hknown
  generalize hnesting : nesting 0 tokens = nested at hverdict
  generalize hresult : ofInfix tokens = result at hverdict
  rw [← nesting_eq_none_iff, hnesting]
  cases hverdict with
  | unopened => simp
  | unclosed depth =>
      have hcount := openers_eq_of_nesting hnesting
      have hmore : closers tokens < openers tokens := by omega
      simp [hmore]
  | balanced listing =>
      have hcount := openers_eq_of_nesting hnesting
      have hequal : ¬ closers tokens < openers tokens := by omega
      simpa [hequal] using not_isParen_of_ofInfix hresult

/-- As many closers as openers do not help if they come first. -/
theorem ofInfix_balance_iff_reversed :
    ofInfix [⟨.number, ['1']⟩, ⟨.closer, [')']⟩, ⟨.operator, ['^']⟩, ⟨.opener, ['(']⟩] =
      .error (.malformed .missingOpener) := by
  apply (ofInfix_balance_iff (by simp) _).1.mpr
  · exact ⟨[⟨.number, ['1']⟩, ⟨.closer, [')']⟩], by decide, by decide⟩
  · simp [Known, operatorSigns]

end Formulary.Rpn
