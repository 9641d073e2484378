import Formulary.Proofs.Grammar
import Formulary.Proofs.Listing

/-!
# How phrases of the grammar are arranged

While a phrase arrives, its tokens are spread over two places: part of its listing is written and
the rest, all of it operators, still waits on the stack.  Nothing below the phrase on the stack
moves, provided that the operators of the phrase bind too tightly for it.  From this invariant
follows that a sentence is arranged into the listing of its tree, and so read as that tree.
-/

namespace Formulary.Rpn

open Formulary.Grammar

/-! ## Stacks that are left alone -/

/-- No operator that binds with `strength` or tighter releases anything from the stack. -/
def Holds (strength : Nat) (stack : List Token) : Prop :=
  ∀ (incoming : Text) (arriving : Nat) (written : List Token),
    precedence? incoming = some arriving → strength ≤ arriving →
      release incoming stack written = .ok (stack, written)

theorem holds_nil (strength : Nat) : Holds strength [] := by
  intro incoming arriving written _ _
  rw [release]

theorem Holds.mono {loose tight : Nat} {stack : List Token} (hholds : Holds loose stack)
    (hle : loose ≤ tight) : Holds tight stack := by
  intro incoming arriving written harriving htight
  exact hholds incoming arriving written harriving (Nat.le_trans hle htight)

theorem holds_opener {opener : Token} (hopener : opener.kind = .opener) (strength : Nat)
    (stack : List Token) : Holds strength (opener :: stack) := by
  intro incoming arriving written _ _
  rw [release, if_neg (by simp [hopener])]

theorem goesFirst_eq {top incoming : Text} {waiting arriving : Nat}
    (hwaiting : precedence? top = some waiting) (harriving : precedence? incoming = some arriving) :
    goesFirst top incoming =
      .ok (arriving < waiting || (waiting == arriving && isLeftAssociative incoming)) := by
  simp [goesFirst, precedence, hwaiting, harriving, bind, Except.bind, pure, Except.pure]

/-- Of the operators that bind as tightly as a power, none goes before another. -/
theorem isLeftAssociative_of_power {incoming : Text}
    (hincoming : precedence? incoming = some Stratum.power.strength) :
    isLeftAssociative incoming = false := by
  unfold precedence? at hincoming
  split at hincoming <;> simp_all [Stratum.strength, isLeftAssociative]

theorem isLeftAssociative_of_lt {incoming : Text} {arriving : Nat}
    (hincoming : precedence? incoming = some arriving) (hlt : arriving < Stratum.power.strength) :
    isLeftAssociative incoming = true := by
  unfold precedence? at hincoming
  split at hincoming <;> simp_all [Stratum.strength, isLeftAssociative]

/-- A waiting operator stays where only tighter operators arrive; a power also stays where powers
do. -/
theorem holds_operator {stratum : Stratum} {sign : Token} (hsign : Joins stratum sign)
    {strength : Nat} (hle : stratum.strength ≤ strength)
    (hpower : stratum.strength = strength → stratum = .power) (stack : List Token) :
    Holds strength (sign :: stack) := by
  intro incoming arriving written harriving hstrength
  have hwaiting := precedence?_of_joins hsign
  have hstays : goesFirst sign.text incoming = .ok false := by
    rw [goesFirst_eq hwaiting harriving]
    by_cases hequal : stratum.strength = arriving
    · obtain rfl := hpower (by omega)
      rw [isLeftAssociative_of_power (harriving.trans (congrArg some hequal.symm))]
      simp [hequal]
    · have hnot : ¬ arriving < stratum.strength := by omega
      simp [hequal, hnot]
  rw [release, if_pos hsign.1, hstays]

/-! ## Operators that wait -/

/-- A token is an operator that binds with `strength` or tighter. -/
def Waits (strength : Nat) (token : Token) : Prop :=
  token.kind = .operator ∧ ∃ waiting, precedence? token.text = some waiting ∧ strength ≤ waiting

theorem Waits.mono {loose tight : Nat} {token : Token} (hwaits : Waits tight token)
    (hle : loose ≤ tight) : Waits loose token := by
  obtain ⟨hkind, waiting, hwaiting, htight⟩ := hwaits
  exact ⟨hkind, waiting, hwaiting, Nat.le_trans hle htight⟩

theorem waits_of_joins {stratum : Stratum} {sign : Token} (hsign : Joins stratum sign) :
    Waits stratum.strength sign :=
  ⟨hsign.1, _, precedence?_of_joins hsign, Nat.le_refl _⟩

/-- Nothing waits that binds as tightly as an atom. -/
theorem not_waits_atom (token : Token) : ¬ Waits Stratum.atom.strength token := by
  rintro ⟨-, waiting, hwaiting, htight⟩
  have hle := precedence?_le hwaiting
  simp only [Stratum.strength] at hle htight
  omega

/-- An operator that groups to the left writes out all that binds as tightly as itself. -/
theorem release_waiting {incoming : Text} {arriving : Nat}
    (harriving : precedence? incoming = some arriving) (hlt : arriving < Stratum.power.strength)
    {pending : List Token} (hpending : ∀ token ∈ pending, Waits arriving token)
    (stack written : List Token) :
    release incoming (pending ++ stack) written =
      release incoming stack (pending.reverse ++ written) := by
  induction pending generalizing written with
  | nil => rfl
  | cons top pending ih =>
      obtain ⟨hkind, waiting, hwaiting, hle⟩ := hpending top (by simp)
      have hgoes : goesFirst top.text incoming = .ok true := by
        rw [goesFirst_eq hwaiting harriving, isLeftAssociative_of_lt harriving hlt]
        have heither : arriving < waiting ∨ waiting = arriving := by omega
        simpa using heither
      rw [List.cons_append, release, if_pos hkind, hgoes]
      simp only
      rw [ih fun token htoken => hpending token (by simp [htoken])]
      simp

/-- A closer writes out all that waits above the opener. -/
theorem close_waiting {opener : Token} (hopener : opener.kind = .opener) {strength : Nat}
    {pending : List Token} (hpending : ∀ token ∈ pending, Waits strength token)
    (stack written : List Token) :
    close (pending ++ opener :: stack) written = .ok (stack, pending.reverse ++ written) := by
  induction pending generalizing written with
  | nil => rw [List.nil_append, close, if_pos hopener, List.reverse_nil, List.nil_append]
  | cons top pending ih =>
      have hkind := (hpending top (by simp)).1
      rw [List.cons_append, close, if_neg (by simp [hkind]),
        ih fun token htoken => hpending token (by simp [htoken])]
      simp

theorem drain_waiting {strength : Nat} {pending : List Token}
    (hpending : ∀ token ∈ pending, Waits strength token) (written : List Token) :
    drain pending written = .ok (written.reverse ++ pending) := by
  induction pending generalizing written with
  | nil => rw [drain, List.append_nil]
  | cons top pending ih =>
      have hkind := (hpending top (by simp)).1
      rw [drain, if_neg (by simp [hkind, Token.Kind.isParen]),
        ih fun token htoken => hpending token (by simp [htoken])]
      simp

/-! ## The steps of the arrangement -/

theorem arrange_operand {token : Token} (hoperand : token.kind.isOperand)
    (rest stack written : List Token) :
    arrange (token :: rest) stack written = arrange rest stack (token :: written) := by
  rcases Token.Kind.isOperand_iff.mp hoperand with hkind | hkind <;> simp only [arrange, hkind]

theorem arrange_opener {opener : Token} (hopener : opener.kind = .opener)
    (rest stack written : List Token) :
    arrange (opener :: rest) stack written = arrange rest (opener :: stack) written := by
  simp only [arrange, hopener]

theorem arrange_operator {sign : Token} (hkind : sign.kind = .operator)
    {stack written stack' written' : List Token}
    (hrelease : release sign.text stack written = .ok (stack', written')) (rest : List Token) :
    arrange (sign :: rest) stack written = arrange rest (sign :: stack') written' := by
  simp only [arrange, hkind, hrelease]

theorem arrange_closer {closer : Token} (hcloser : closer.kind = .closer)
    {stack written stack' written' : List Token}
    (hclose : close stack written = .ok (stack', written')) (rest : List Token) :
    arrange (closer :: rest) stack written = arrange rest stack' written' := by
  simp only [arrange, hcloser, hclose]

/-! ## Phrases -/

/-- The tokens are arranged above any stack that holds: `output` of a listing of the tree is
written and `pending`, the rest of it, waits. -/
def Arranges (stratum : Stratum) (tokens : List Token) (tree : Expr) : Prop :=
  ∃ output pending : List Token,
    Expr.Listed tree (output ++ pending) ∧
    (∀ token ∈ pending, Waits stratum.strength token) ∧
    ∀ rest stack written, Holds stratum.strength stack →
      arrange (tokens ++ rest) stack written =
        arrange rest (pending ++ stack) (output.reverse ++ written)

theorem Arranges.loosen {tight loose : Stratum} {tokens : List Token} {tree : Expr}
    (harranges : Arranges tight tokens tree) (hle : loose.strength ≤ tight.strength) :
    Arranges loose tokens tree := by
  obtain ⟨output, pending, hlisted, hpending, harrange⟩ := harranges
  refine ⟨output, pending, hlisted, fun token htoken => (hpending token htoken).mono hle, ?_⟩
  intro rest stack written hholds
  exact harrange rest stack written (hholds.mono hle)

/-- Two phrases around an operator that groups to the left: the operator writes out the left one
and then waits itself, below what waits of the right one. -/
theorem Arranges.joinLeft {stratum inner : Stratum} {left right : List Token} {sign : Token}
    {first second : Expr} (hleft : Arranges stratum left first) (hsign : Joins stratum sign)
    (hright : Arranges inner right second) (hinner : stratum.strength < inner.strength)
    (hpower : stratum.strength < Stratum.power.strength) :
    Arranges stratum (left ++ sign :: right) (.operator sign.text first second) := by
  obtain ⟨output, pending, hlisted, hpending, harrange⟩ := hleft
  obtain ⟨output', pending', hlisted', hpending', harrange'⟩ := hright
  have hprecedence := precedence?_of_joins hsign
  refine ⟨output ++ pending ++ output', pending' ++ [sign], ?_, ?_, ?_⟩
  · simpa using Expr.Listed.operator hsign.1 hlisted hlisted'
  · intro token htoken
    rcases List.mem_append.mp htoken with htoken | htoken
    · exact (hpending' token htoken).mono (Nat.le_of_lt hinner)
    · rw [List.mem_singleton.mp htoken]
      exact waits_of_joins hsign
  · intro rest stack written hholds
    have hrelease : release sign.text (pending ++ stack) (output.reverse ++ written) =
        .ok (stack, pending.reverse ++ (output.reverse ++ written)) := by
      rw [release_waiting hprecedence hpower hpending]
      exact hholds _ _ _ hprecedence (Nat.le_refl _)
    have hsignHolds : Holds inner.strength (sign :: stack) :=
      holds_operator hsign (Nat.le_of_lt hinner)
        (fun hequal => absurd hequal (Nat.ne_of_lt hinner)) stack
    rw [List.append_assoc, harrange _ _ _ hholds, List.cons_append,
      arrange_operator hsign.1 hrelease, harrange' _ _ _ hsignHolds]
    simp

/-- An atom and a power around the operator of powers: nothing of the atom waits, so the operator
goes on the stack at once. -/
theorem Arranges.joinPower {left right : List Token} {sign : Token} {first second : Expr}
    (hleft : Arranges .atom left first) (hsign : Joins .power sign)
    (hright : Arranges .power right second) :
    Arranges .power (left ++ sign :: right) (.operator sign.text first second) := by
  obtain ⟨output, pending, hlisted, hpending, harrange⟩ := hleft
  obtain ⟨output', pending', hlisted', hpending', harrange'⟩ := hright
  obtain rfl : pending = [] :=
    List.eq_nil_iff_forall_not_mem.mpr fun token htoken =>
      not_waits_atom token (hpending token htoken)
  refine ⟨output ++ output', pending' ++ [sign], ?_, ?_, ?_⟩
  · simpa using Expr.Listed.operator hsign.1 hlisted hlisted'
  · intro token htoken
    rcases List.mem_append.mp htoken with htoken | htoken
    · exact hpending' token htoken
    · rw [List.mem_singleton.mp htoken]
      exact waits_of_joins hsign
  · intro rest stack written hholds
    have hrelease : release sign.text stack (output.reverse ++ written) =
        .ok (stack, output.reverse ++ written) :=
      hholds _ _ _ (precedence?_of_joins hsign) (Nat.le_refl _)
    have hsignHolds : Holds Stratum.power.strength (sign :: stack) :=
      holds_operator hsign (Nat.le_refl _) (fun _ => rfl) stack
    rw [List.append_assoc, harrange _ _ _ (hholds.mono (by decide)), List.cons_append,
      List.nil_append, arrange_operator hsign.1 hrelease, harrange' _ _ _ hsignHolds]
    simp

theorem arranges_operand {token : Token} (hoperand : token.kind.isOperand) :
    Arranges .atom [token] (.operand token.text) := by
  refine ⟨[token], [], .operand hoperand, by simp, ?_⟩
  intro rest stack written _
  exact arrange_operand hoperand rest stack written

/-- In parentheses everything is written out by the closer. -/
theorem Arranges.group {opener closer : Token} {tokens : List Token} {tree : Expr}
    (hopener : opener.kind = .opener) (hsum : Arranges .sum tokens tree)
    (hcloser : closer.kind = .closer) : Arranges .atom (opener :: (tokens ++ [closer])) tree := by
  obtain ⟨output, pending, hlisted, hpending, harrange⟩ := hsum
  refine ⟨output ++ pending, [], by simpa using hlisted, by simp, ?_⟩
  intro rest stack written _
  have hclose := close_waiting hopener hpending stack (output.reverse ++ written)
  rw [List.cons_append, arrange_opener hopener, List.append_assoc,
    harrange _ _ _ (holds_opener hopener _ stack), List.singleton_append,
    arrange_closer hcloser hclose]
  simp

/-- The invariant of a phrase, by induction on its derivation. -/
theorem arranges_of_derives {stratum : Stratum} {tokens : List Token} {tree : Expr}
    (hderives : Derives stratum tokens tree) : Arranges stratum tokens tree := by
  induction hderives with
  | sumOfProduct _ ih => exact ih.loosen (by decide)
  | sum _ hsign _ ihleft ihright => exact ihleft.joinLeft hsign ihright (by decide) (by decide)
  | productOfPower _ ih => exact ih.loosen (by decide)
  | product _ hsign _ ihleft ihright => exact ihleft.joinLeft hsign ihright (by decide) (by decide)
  | powerOfAtom _ ih => exact ih.loosen (by decide)
  | power _ hsign _ ihleft ihright => exact ihleft.joinPower hsign ihright
  | operand hoperand => exact arranges_operand hoperand
  | group hopener _ hcloser ih => exact .group hopener ih hcloser

/-- At the end of the tokens what waits is drained. -/
theorem Arranges.ofInfix {tokens : List Token} {tree : Expr}
    (harranges : Arranges .sum tokens tree) (hne : tokens ≠ []) :
    ∃ listing, ofInfix tokens = .ok listing ∧ Expr.Listed tree listing := by
  obtain ⟨output, pending, hlisted, hpending, harrange⟩ := harranges
  refine ⟨output ++ pending, ?_, hlisted⟩
  have hwhole := harrange [] [] [] (holds_nil _)
  simp only [List.append_nil] at hwhole
  rw [Rpn.ofInfix, if_neg (by simpa using hne), hwhole, arrange, drain_waiting hpending,
    List.reverse_reverse]

end Formulary.Rpn
