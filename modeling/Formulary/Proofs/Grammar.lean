import Formulary.Expr

/-!
# The grammar of infix formulas

A formula is a sum of products of powers of atoms.  The grammar says which token lists are phrases
of a stratum and which tree such a phrase stands for, and it knows nothing of stacks.  A phrase
that is read from left to right grows by one operator and one atom at a time; the last lemmas say
that it stays a phrase, whatever the operator is.
-/

namespace Formulary.Grammar

/-- The strata of the grammar, from the loosest operators to none at all. -/
inductive Stratum where
  | sum
  | product
  | power
  | atom
  deriving DecidableEq, Repr

def Stratum.signs : Stratum → List Text
  | .sum => [['+'], ['-']]
  | .product => [['*'], ['/']]
  | .power => [['^']]
  | .atom => []

/-- How tightly the operators of a stratum bind.  An atom has none, so it is above all of them. -/
def Stratum.strength : Stratum → Nat
  | .sum => 1
  | .product => 2
  | .power => 3
  | .atom => 4

def Joins (stratum : Stratum) (token : Token) : Prop :=
  token.kind = .operator ∧ token.text ∈ stratum.signs

theorem not_joins_atom (token : Token) : ¬ Joins .atom token := by
  rintro ⟨-, hmem⟩
  cases hmem

def operatorSigns : List Text :=
  [['+'], ['-'], ['*'], ['/'], ['^']]

theorem mem_operatorSigns_iff {text : Text} :
    text ∈ operatorSigns ↔ ∃ stratum : Stratum, text ∈ stratum.signs := by
  constructor
  · intro hmem
    simp only [operatorSigns, List.mem_cons, List.not_mem_nil, or_false] at hmem
    rcases hmem with rfl | rfl | rfl | rfl | rfl
    · exact ⟨.sum, by decide⟩
    · exact ⟨.sum, by decide⟩
    · exact ⟨.product, by decide⟩
    · exact ⟨.product, by decide⟩
    · exact ⟨.power, by decide⟩
  · rintro ⟨stratum, hmem⟩
    cases stratum <;> simp_all [Stratum.signs, operatorSigns] <;> grind

/-- The phrases of each stratum with their trees.  Sums and products group to the left and powers
to the right; parentheses leave no trace in the tree. -/
inductive Derives : Stratum → List Token → Expr → Prop
  | sumOfProduct {tokens : List Token} {tree : Expr} (hproduct : Derives .product tokens tree) :
      Derives .sum tokens tree
  | sum {left right : List Token} {sign : Token} {first second : Expr}
      (hleft : Derives .sum left first) (hsign : Joins .sum sign)
      (hright : Derives .product right second) :
      Derives .sum (left ++ sign :: right) (.operator sign.text first second)
  | productOfPower {tokens : List Token} {tree : Expr} (hpower : Derives .power tokens tree) :
      Derives .product tokens tree
  | product {left right : List Token} {sign : Token} {first second : Expr}
      (hleft : Derives .product left first) (hsign : Joins .product sign)
      (hright : Derives .power right second) :
      Derives .product (left ++ sign :: right) (.operator sign.text first second)
  | powerOfAtom {tokens : List Token} {tree : Expr} (hatom : Derives .atom tokens tree) :
      Derives .power tokens tree
  | power {left right : List Token} {sign : Token} {first second : Expr}
      (hleft : Derives .atom left first) (hsign : Joins .power sign)
      (hright : Derives .power right second) :
      Derives .power (left ++ sign :: right) (.operator sign.text first second)
  | operand {token : Token} (hoperand : token.kind.isOperand) :
      Derives .atom [token] (.operand token.text)
  | group {opener closer : Token} {tokens : List Token} {tree : Expr}
      (hopener : opener.kind = .opener) (hsum : Derives .sum tokens tree)
      (hcloser : closer.kind = .closer) :
      Derives .atom (opener :: (tokens ++ [closer])) tree

def Sentence (tokens : List Token) : Prop :=
  ∃ tree, Derives .sum tokens tree

theorem derives_sum_of_atom {tokens : List Token} {tree : Expr}
    (hatom : Derives .atom tokens tree) :
    Derives .sum tokens tree :=
  .sumOfProduct (.productOfPower (.powerOfAtom hatom))

theorem precedence?_of_joins {stratum : Stratum} {sign : Token} (hsign : Joins stratum sign) :
    precedence? sign.text = some stratum.strength := by
  obtain ⟨-, hmem⟩ := hsign
  cases stratum <;> simp only [Stratum.signs, List.mem_cons, List.not_mem_nil, or_false] at hmem
  · rcases hmem with htext | htext <;> rw [htext] <;> rfl
  · rcases hmem with htext | htext <;> rw [htext] <;> rfl
  · rw [hmem]
    rfl

/-- No operator binds tighter than a power. -/
theorem precedence?_le {text : Text} {strength : Nat}
    (hstrength : precedence? text = some strength) :
    strength ≤ Stratum.power.strength := by
  unfold precedence? at hstrength
  split at hstrength <;> simp_all [Stratum.strength] <;> omega

theorem Derives.ne_nil {stratum : Stratum} {tokens : List Token} {tree : Expr}
    (hderives : Derives stratum tokens tree) : tokens ≠ [] := by
  induction hderives with
  | sumOfProduct _ ih | productOfPower _ ih | powerOfAtom _ ih => exact ih
  | _ => simp

/-- A phrase takes an operator and an atom at its end.  The operator belongs to the stratum of the
phrase or binds tighter; in the second case it goes into the last phrase inside. -/
theorem Derives.append {stratum : Stratum} {tokens : List Token} {tree : Expr}
    (hderives : Derives stratum tokens tree) {other : Stratum} {sign : Token}
    (hsign : Joins other sign) (habove : stratum.strength ≤ other.strength)
    (hstratum : stratum ≠ .atom) {atom : List Token} {last : Expr}
    (hatom : Derives .atom atom last) :
    ∃ whole, Derives stratum (tokens ++ sign :: atom) whole := by
  induction hderives with
  | sumOfProduct hproduct ih =>
      cases other with
      | sum => exact ⟨_, .sum (.sumOfProduct hproduct) hsign (.productOfPower (.powerOfAtom hatom))⟩
      | atom => exact absurd hsign (not_joins_atom sign)
      | _ =>
          obtain ⟨whole, hwhole⟩ := ih (by decide) (by simp)
          exact ⟨whole, .sumOfProduct hwhole⟩
  | sum hleft hinner hright _ ih =>
      cases other with
      | sum =>
          exact ⟨_, .sum (.sum hleft hinner hright) hsign (.productOfPower (.powerOfAtom hatom))⟩
      | atom => exact absurd hsign (not_joins_atom sign)
      | _ =>
          obtain ⟨whole, hwhole⟩ := ih (by decide) (by simp)
          rw [List.append_assoc]
          exact ⟨_, .sum hleft hinner hwhole⟩
  | productOfPower hpower ih =>
      cases other with
      | sum => simp [Stratum.strength] at habove
      | product => exact ⟨_, .product (.productOfPower hpower) hsign (.powerOfAtom hatom)⟩
      | atom => exact absurd hsign (not_joins_atom sign)
      | power =>
          obtain ⟨whole, hwhole⟩ := ih (by decide) (by simp)
          exact ⟨whole, .productOfPower hwhole⟩
  | product hleft hinner hright _ ih =>
      cases other with
      | sum => simp [Stratum.strength] at habove
      | product => exact ⟨_, .product (.product hleft hinner hright) hsign (.powerOfAtom hatom)⟩
      | atom => exact absurd hsign (not_joins_atom sign)
      | power =>
          obtain ⟨whole, hwhole⟩ := ih (by decide) (by simp)
          rw [List.append_assoc]
          exact ⟨_, .product hleft hinner hwhole⟩
  | powerOfAtom hpower ih =>
      cases other with
      | sum | product => simp [Stratum.strength] at habove
      | atom => exact absurd hsign (not_joins_atom sign)
      | power => exact ⟨_, .power hpower hsign (.powerOfAtom hatom)⟩
  | power hleft hinner hright _ ih =>
      obtain ⟨whole, hwhole⟩ := ih habove (by simp)
      rw [List.append_assoc]
      exact ⟨_, .power hleft hinner hwhole⟩
  | operand => exact absurd rfl hstratum
  | group => exact absurd rfl hstratum

end Formulary.Grammar
