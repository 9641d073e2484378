import Formulary.Proofs.Listing
import Formulary.Proofs.Grammar
import Formulary.Proofs.Rpn.Balance
import Mathlib.Data.List.Chain

/-!
# Sentences among the token lists that are read

A list of tokens is read as a tree if its parentheses are nested and its operands and operators
come out in the right proportion; where they stand is hardly looked at.  Counting shows what is
missing: such a list is a sentence exactly if no two values stand side by side, that is, if no
operand and no closer comes right before an operand or an opener.
-/

namespace Formulary.Grammar

open Formulary.Rpn

/-! ## Values side by side -/

def endsValue : Token.Kind → Bool
  | .number | .identifier | .closer => true
  | .operator | .opener => false

def startsValue : Token.Kind → Bool
  | .number | .identifier | .opener => true
  | .operator | .closer => false

/-- The second token does not start a value right behind a value that ends with the first one. -/
def Apart (token next : Token) : Prop :=
  ¬ (endsValue token.kind ∧ startsValue next.kind)

instance : DecidableRel Apart := fun token next =>
  inferInstanceAs (Decidable (¬ (endsValue token.kind ∧ startsValue next.kind)))

theorem apart_of_starts {token : Token} (hstarts : endsValue token.kind = false) (next : Token) :
    Apart token next := by
  simp [Apart, hstarts]

theorem apart_of_ends {next : Token} (hends : startsValue next.kind = false) (token : Token) :
    Apart token next := by
  simp [Apart, hends]

/-- In a sentence no two values stand side by side. -/
theorem Derives.isChain_apart {stratum : Stratum} {tokens : List Token} {tree : Expr}
    (hderives : Derives stratum tokens tree) : tokens.IsChain Apart := by
  induction hderives with
  | sumOfProduct _ ih | productOfPower _ ih | powerOfAtom _ ih => exact ih
  | sum _ hsign _ ihleft ihright | product _ hsign _ ihleft ihright
  | power _ hsign _ ihleft ihright =>
      refine ihleft.append (List.isChain_cons.mpr ⟨?_, ihright⟩) ?_
      · exact fun next _ => apart_of_starts (by simp [hsign.1, endsValue]) next
      · intro token _ next hnext
        obtain rfl : _ = next := by simpa using hnext
        exact apart_of_ends (by simp [hsign.1, startsValue]) token
  | operand => exact List.isChain_singleton _
  | group hopener _ hcloser ih =>
      refine List.isChain_cons.mpr ⟨?_, ih.append (List.isChain_singleton _) ?_⟩
      · exact fun next _ => apart_of_starts (by simp [hopener, endsValue]) next
      · intro token _ next hnext
        obtain rfl : _ = next := by simpa using hnext
        exact apart_of_ends (by simp [hcloser, startsValue]) token

/-! ## Operands in excess of operators -/

/-- An operand counts for one, an operator against one, and a parenthesis not at all. -/
def weight (token : Token) : Int :=
  match token.kind with
  | .number | .identifier => 1
  | .operator => -1
  | .opener | .closer => 0

/-- By how much the operands outnumber the operators. -/
def surplus : List Token → Int
  | [] => 0
  | token :: tokens => weight token + surplus tokens

@[simp]
theorem surplus_nil : surplus [] = 0 := rfl

@[simp]
theorem surplus_cons (token : Token) (tokens : List Token) :
    surplus (token :: tokens) = weight token + surplus tokens := rfl

@[simp]
theorem surplus_append (left right : List Token) :
    surplus (left ++ right) = surplus left + surplus right := by
  induction left with
  | nil => simp
  | cons token left ih => simp [ih, Int.add_assoc]

/-- The order of the tokens does not matter. -/
theorem surplus_perm {left right : List Token} (hperm : left.Perm right) :
    surplus left = surplus right := by
  induction hperm with
  | nil => rfl
  | cons token _ ih => simp [ih]
  | swap first second rest =>
      simp only [surplus_cons]
      omega
  | trans _ _ ihleft ihright => exact ihleft.trans ihright

theorem weight_operand {token : Token} (hoperand : token.kind.isOperand) : weight token = 1 := by
  rcases Token.Kind.isOperand_iff.mp hoperand with hkind | hkind <;> rw [weight, hkind]

theorem weight_operator {token : Token} (hkind : token.kind = .operator) : weight token = -1 := by
  rw [weight, hkind]

theorem weight_opener {token : Token} (hkind : token.kind = .opener) : weight token = 0 := by
  rw [weight, hkind]

theorem weight_closer {token : Token} (hkind : token.kind = .closer) : weight token = 0 := by
  rw [weight, hkind]

theorem surplus_terms (tokens : List Token) : surplus (terms tokens) = surplus tokens := by
  induction tokens with
  | nil => rfl
  | cons token tokens ih =>
      cases hkind : token.kind <;>
        simp_all [terms, weight, Token.Kind.isParen]

/-- A listing has one operand more than operators. -/
theorem surplus_listed {tree : Expr} {listing : List Token} (hlisted : Expr.Listed tree listing) :
    surplus listing = 1 := by
  induction hlisted with
  | operand hoperand => simp [weight_operand hoperand]
  | operator hsign _ _ ihleft ihright => simp [weight_operator hsign, ihleft, ihright]

/-- What a successful reading says about the tokens: every parenthesis has its partner, and there
is one operand more than operators. -/
theorem nested_of_ofTokens {tokens : List Token} {tree : Expr}
    (hread : Expr.ofTokens tokens = .ok tree) :
    nesting 0 tokens = some 0 ∧ surplus tokens = 1 := by
  obtain ⟨listing, harranged, hlisted⟩ := Expr.ofTokens_eq_ok_iff.mp hread
  have hsum : surplus (terms listing) = surplus (terms tokens) :=
    surplus_perm (terms_ofInfix harranged)
  rw [surplus_terms, surplus_terms, surplus_listed hlisted] at hsum
  exact ⟨nesting_ofInfix harranged, hsum.symm⟩

/-! ## Reading from left to right -/

/-- Tokens behind which a value is awaited.  Their operands do not outnumber their operators, and
if they are as many, a sentence and an operator have been read, or nothing at all. -/
def Awaits (tokens : List Token) : Prop :=
  surplus tokens ≤ 0 ∧
    (surplus tokens = 0 → tokens = [] ∨
      ∃ before sign stratum, tokens = before ++ [sign] ∧ Sentence before ∧ Joins stratum sign)

/-- Tokens that end with a value.  Their operands outnumber their operators by one at most, and if
they do, a sentence has been read. -/
def Closes (tokens : List Token) : Prop :=
  surplus tokens ≤ 1 ∧ (surplus tokens = 1 → Sentence tokens)

theorem awaits_nil : Awaits [] :=
  ⟨by simp, fun _ => .inl rfl⟩

theorem Awaits.closes {tokens : List Token} (hawaits : Awaits tokens) : Closes tokens :=
  ⟨by have := hawaits.1; omega, fun hone => absurd hawaits.1 (by omega)⟩

/-- An atom where a value is awaited makes a sentence, if everything before it is in order. -/
theorem Awaits.sentence {before atom : List Token} {last : Expr} (hawaits : Awaits before)
    (hbalanced : surplus before = 0) (hatom : Derives .atom atom last) :
    Sentence (before ++ atom) := by
  rcases hawaits.2 hbalanced with rfl | ⟨before, sign, stratum, rfl, ⟨tree, hbefore⟩, hsign⟩
  · exact ⟨last, derives_sum_of_atom hatom⟩
  · have habove : Stratum.sum.strength ≤ stratum.strength := by cases stratum <;> decide
    obtain ⟨whole, hwhole⟩ := hbefore.append hsign habove (by simp) hatom
    exact ⟨whole, by simpa using hwhole⟩

theorem Awaits.operand {before : List Token} {token : Token} (hawaits : Awaits before)
    (hoperand : token.kind.isOperand) : Closes (before ++ [token]) := by
  have hweight := weight_operand hoperand
  refine ⟨?_, fun hone => hawaits.sentence ?_ (.operand hoperand)⟩
  · have := hawaits.1
    simp only [surplus_append, surplus_cons, surplus_nil, hweight]
    omega
  · simp only [surplus_append, surplus_cons, surplus_nil, hweight] at hone
    omega

/-- Parentheses count for nothing, so a group is worth what is inside of it. -/
theorem Awaits.group {before inner : List Token} {opener closer : Token}
    (hawaits : Awaits before) (hopener : opener.kind = .opener) (hinner : Closes inner)
    (hcloser : closer.kind = .closer) :
    Closes (before ++ opener :: (inner ++ [closer])) := by
  have hworth : surplus (before ++ opener :: (inner ++ [closer])) =
      surplus before + surplus inner := by
    simp [weight_opener hopener, weight_closer hcloser]
  have hbefore := hawaits.1
  have hle := hinner.1
  constructor
  · omega
  intro hone
  obtain ⟨tree, htree⟩ := hinner.2 (by omega)
  exact hawaits.sentence (by omega) (.group hopener htree hcloser)

/-- Behind a value any operator lets the reading go on; where a value is awaited an operator is too
many, for good. -/
theorem Closes.operator {before : List Token} {sign : Token} {stratum : Stratum}
    (hcloses : Closes before) (hsign : Joins stratum sign) : Awaits (before ++ [sign]) := by
  have hworth : surplus (before ++ [sign]) = surplus before - 1 := by
    simp [weight_operator hsign.1, Int.sub_eq_add_neg]
  have hle := hcloses.1
  refine ⟨by omega, fun hzero => .inr ?_⟩
  exact ⟨before, sign, stratum, rfl, hcloses.2 (by omega), hsign⟩

/-- The tokens read so far: in front of the innermost open group those of the groups around it,
each up to its opener. -/
def enclose : List (List Token × Token) → List Token → List Token
  | [], current => current
  | (before, opener) :: outer, current => enclose outer (before ++ opener :: current)

/-- The invariant of the reading, with the tokens still to be read.  Every open group stands where a
value is awaited; the tokens of the innermost one await a value or end with one, and in the second
case no value comes next. -/
structure Reading (groups : List (List Token × Token)) (current rest : List Token) : Prop where
  outer : ∀ group ∈ groups, Awaits group.1 ∧ group.2.kind = .opener
  inner : Awaits current ∨ Closes current ∧ ∀ next ∈ rest.head?, startsValue next.kind = false
  apart : rest.IsChain Apart
  signs : ∀ token ∈ rest, token.kind = .operator → ∃ stratum, Joins stratum token
  nested : nesting groups.length rest = some 0

variable {groups : List (List Token × Token)} {current rest : List Token} {token : Token}

theorem Reading.closes (hreading : Reading groups current rest) : Closes current :=
  hreading.inner.elim Awaits.closes And.left

theorem Reading.awaits (hreading : Reading groups current (token :: rest))
    (hstarts : startsValue token.kind = true) : Awaits current := by
  rcases hreading.inner with hawaits | ⟨-, hnext⟩
  · exact hawaits
  · have hnot := hnext token rfl
    rw [hstarts] at hnot
    cases hnot

/-- A value that ends here is followed by none. -/
theorem Reading.behind (hreading : Reading groups current (token :: rest))
    (hends : endsValue token.kind = true) :
    ∀ next ∈ rest.head?, startsValue next.kind = false := by
  intro next hhead
  have hapart := (List.isChain_cons.mp hreading.apart).1 next hhead
  simpa [Apart, hends] using hapart

theorem Reading.operand (hreading : Reading groups current (token :: rest))
    (hoperand : token.kind.isOperand) : Reading groups (current ++ [token]) rest := by
  obtain ⟨hstarts, hends, hterm⟩ : startsValue token.kind = true ∧ endsValue token.kind = true ∧
      ¬ token.kind.isParen := by
    rcases Token.Kind.isOperand_iff.mp hoperand with hkind | hkind <;>
      simp [hkind, startsValue, endsValue, Token.Kind.isParen]
  have hnested := hreading.nested
  rw [nesting_term hterm] at hnested
  have hcloses := (hreading.awaits hstarts).operand hoperand
  exact ⟨hreading.outer, .inr ⟨hcloses, hreading.behind hends⟩, hreading.apart.tail,
    fun other hother => hreading.signs other (by simp [hother]), hnested⟩

theorem Reading.operator (hreading : Reading groups current (token :: rest))
    (hkind : token.kind = .operator) : Reading groups (current ++ [token]) rest := by
  obtain ⟨stratum, hsign⟩ := hreading.signs token (by simp) hkind
  have hnested := hreading.nested
  rw [nesting_term (by simp [hkind, Token.Kind.isParen])] at hnested
  exact ⟨hreading.outer, .inl (hreading.closes.operator hsign), hreading.apart.tail,
    fun other hother => hreading.signs other (by simp [hother]), hnested⟩

theorem Reading.opener (hreading : Reading groups current (token :: rest))
    (hkind : token.kind = .opener) : Reading ((current, token) :: groups) [] rest := by
  have hawaits : Awaits current := hreading.awaits (by rw [hkind]; rfl)
  have hnested := hreading.nested
  rw [nesting_opener hkind] at hnested
  exact ⟨List.forall_mem_cons.mpr ⟨⟨hawaits, hkind⟩, hreading.outer⟩, .inl awaits_nil,
    hreading.apart.tail, fun other hother => hreading.signs other (by simp [hother]), hnested⟩

theorem Reading.closer {group : List Token × Token}
    (hreading : Reading (group :: groups) current (token :: rest)) (hkind : token.kind = .closer) :
    Reading groups (group.1 ++ group.2 :: (current ++ [token])) rest := by
  obtain ⟨⟨hawaits, hopener⟩, houter⟩ := List.forall_mem_cons.mp hreading.outer
  have hnested := hreading.nested
  rw [List.length_cons, nesting_closer hkind] at hnested
  have hgroup := hawaits.group hopener hreading.closes hkind
  have hbehind := hreading.behind (by rw [hkind]; rfl)
  exact ⟨houter, .inr ⟨hgroup, hbehind⟩, hreading.apart.tail,
    fun other hother => hreading.signs other (by simp [hother]), hnested⟩

/-- A reading that comes to its end with one operand more than operators has read a sentence. -/
theorem Reading.sentence (hreading : Reading groups current rest)
    (hsurplus : surplus (enclose groups (current ++ rest)) = 1) :
    Sentence (enclose groups (current ++ rest)) := by
  induction rest generalizing groups current with
  | nil =>
      obtain rfl : groups = [] := by simpa [nesting] using hreading.nested
      simp only [enclose, List.append_nil] at hsurplus ⊢
      exact hreading.closes.2 hsurplus
  | cons token rest ih =>
      rw [List.append_cons] at hsurplus ⊢
      cases hkind : token.kind with
      | number | identifier => exact ih (hreading.operand (by rw [hkind]; rfl)) hsurplus
      | operator => exact ih (hreading.operator hkind) hsurplus
      | opener =>
          have hinner := ih (hreading.opener hkind)
          simp only [enclose, List.nil_append, List.append_assoc, List.cons_append]
            at hinner hsurplus ⊢
          exact hinner hsurplus
      | closer =>
          cases groups with
          | nil => simpa [nesting_closer_zero hkind] using hreading.nested
          | cons group groups =>
              have houter := ih (hreading.closer hkind)
              simp only [enclose, List.append_assoc, List.cons_append] at houter hsurplus ⊢
              exact houter hsurplus

/-- Tokens that are read as a tree are a sentence if and only if no two values stand side by
side. -/
theorem sentence_iff_isChain_apart {tokens : List Token} {tree : Expr}
    (hsigns : ∀ token ∈ tokens, token.kind = .operator → ∃ stratum, Joins stratum token)
    (hread : Expr.ofTokens tokens = .ok tree) :
    Sentence tokens ↔ tokens.IsChain Apart := by
  constructor
  · rintro ⟨tree, hderives⟩
    exact hderives.isChain_apart
  · intro hchain
    obtain ⟨hnesting, hsurplus⟩ := nested_of_ofTokens hread
    have hreading : Reading [] [] tokens :=
      ⟨by simp, .inl awaits_nil, hchain, hsigns, hnesting⟩
    exact hreading.sentence hsurplus

end Formulary.Grammar
