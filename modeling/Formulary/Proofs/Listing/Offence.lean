import Formulary.Proofs.Grammar.Juxtaposition

/-!
# Token lists that are no listings

A token offends if it cannot stand behind the tokens before it, whatever comes later: a parenthesis
never can, and an operator only if two subtrees are there to be its operands.  As long as no token
offends, the finished subtrees are as many as the operands are in excess of the operators.  So
building stops at the first token that offends, and behind the last token only their number counts.
-/

namespace Formulary.Expr

open Formulary.Grammar (surplus surplus_append surplus_cons surplus_nil weight_operand
  weight_operator)

/-- A token that cannot stand behind the tokens before it, with the fault it is reported by. -/
inductive Offends (before : List Token) (token : Token) : Fault → Prop
  | stray (hparen : token.kind.isParen) : Offends before token (.strayParen token.kind)
  | early (hkind : token.kind = .operator) (hfew : surplus before < 2) :
      Offends before token (.malformed .missingOperand)

def Orderly (tokens : List Token) : Prop :=
  ∀ before token after fault, tokens = before ++ token :: after → ¬ Offends before token fault

/-- Why tokens list no tree.  The first token that offends decides; if there is none, the operands
do not exceed the operators by one. -/
inductive Rejected (tokens : List Token) : Fault → Prop
  | offence {before after : List Token} {token : Token} {fault : Fault}
      (hsplit : tokens = before ++ token :: after) (hbefore : Orderly before)
      (hoffends : Offends before token fault) : Rejected tokens fault
  | count (horderly : Orderly tokens) (hcount : surplus tokens ≠ 1) :
      Rejected tokens (.malformed .notOneTree)

variable {before tokens : List Token} {token : Token} {finished : List Expr} {fault : Fault}

theorem orderly_nil : Orderly [] := by
  intro before token after fault hsplit
  simp at hsplit

theorem orderly_concat_iff :
    Orderly (tokens ++ [token]) ↔
      Orderly tokens ∧ ∀ fault, ¬ Offends tokens token fault := by
  constructor
  · intro horderly
    constructor
    · intro before other after fault hsplit
      apply horderly before other (after ++ [token]) fault
      rw [hsplit, List.append_assoc, List.cons_append]
    · intro fault
      exact horderly tokens token [] fault rfl
  · rintro ⟨horderly, hlast⟩ before other after fault hsplit
    rcases List.eq_nil_or_concat after with rfl | ⟨inner, last, rfl⟩
    · obtain ⟨rfl, hsame⟩ := List.append_inj' hsplit rfl
      obtain rfl : token = other := by simpa using hsame
      exact hlast fault
    · rw [List.concat_eq_append, ← List.cons_append, ← List.append_assoc] at hsplit
      exact horderly before other inner fault (List.append_inj' hsplit rfl).1

/-- Either no token offends, or one of them is the first that does. -/
theorem orderly_or_first_offence (tokens : List Token) :
    Orderly tokens ∨ ∃ before token after fault,
      tokens = before ++ token :: after ∧ Orderly before ∧ Offends before token fault := by
  induction tokens using List.reverseRecOn with
  | nil => exact .inl orderly_nil
  | append_singleton tokens last ih =>
      rcases ih with horderly | ⟨before, token, after, fault, rfl, hbefore, hoffends⟩
      · by_cases hlast : ∃ fault, Offends tokens last fault
        · obtain ⟨fault, hoffends⟩ := hlast
          exact .inr ⟨tokens, last, [], fault, rfl, horderly, hoffends⟩
        · rw [not_exists] at hlast
          exact .inl (orderly_concat_iff.mpr ⟨horderly, hlast⟩)
      · refine .inr ⟨before, token, after ++ [last], fault, ?_, hbefore, hoffends⟩
        rw [List.append_assoc, List.cons_append]

/-! ## Building step by step -/

/-- An operator finds less than two subtrees. -/
theorem build_operator_of_few (hkind : token.kind = .operator) (hfew : finished.length < 2)
    (rest : List Token) :
    build (token :: rest) finished = .error (.malformed .missingOperand) := by
  cases finished with
  | nil => simp only [Expr.build, hkind]
  | cons right others =>
      cases others with
      | nil => simp only [Expr.build, hkind]
      | cons left others =>
          simp only [List.length_cons] at hfew
          omega

/-- An operator takes two subtrees and leaves one. -/
theorem exists_build_operator (hkind : token.kind = .operator) (henough : 2 ≤ finished.length) :
    ∃ finished' : List Expr, finished'.length + 1 = finished.length ∧
      ∀ rest, build (token :: rest) finished = build rest finished' := by
  cases finished with
  | nil => simp at henough
  | cons right others =>
      cases others with
      | nil => simp at henough
      | cons left others =>
          refine ⟨.operator token.text left right :: others, by simp, ?_⟩
          intro rest
          simp only [build, hkind]

/-- Behind the last token any number of subtrees but one is a fault. -/
theorem build_nil_of_length_ne_one (hlength : finished.length ≠ 1) :
    build [] finished = .error (.malformed .notOneTree) := by
  rw [build]
  rintro tree rfl
  exact hlength rfl

/-- A token that offends ends the building with its fault. -/
theorem Offends.build (hoffends : Offends before token fault)
    (hlength : (finished.length : Int) = surplus before) (rest : List Token) :
    build (token :: rest) finished = .error fault := by
  cases hoffends with
  | stray hparen => cases hkind : token.kind <;> simp_all [Expr.build, Token.Kind.isParen]
  | early hkind hfew =>
      apply build_operator_of_few hkind
      omega

/-- A token that does not offend adds a subtree, or makes one of two. -/
theorem exists_build_of_not_offends (hnone : ∀ fault, ¬ Offends before token fault)
    (hlength : (finished.length : Int) = surplus before) :
    ∃ finished' : List Expr, (finished'.length : Int) = surplus (before ++ [token]) ∧
      ∀ rest, build (token :: rest) finished = build rest finished' := by
  have hparen : token.kind.isParen = false := by
    rw [Bool.eq_false_iff]
    exact fun hparen => hnone _ (.stray hparen)
  by_cases hkind : token.kind = .operator
  · have henough : 2 ≤ finished.length := by
      by_contra hfew
      apply hnone _ (.early hkind _)
      omega
    obtain ⟨finished', hshorter, hstep⟩ := exists_build_operator hkind henough
    refine ⟨finished', ?_, hstep⟩
    simp only [surplus_append, surplus_cons, surplus_nil, weight_operator hkind]
    omega
  · have hoperand : token.kind.isOperand := by
      cases hother : token.kind <;> simp_all [Token.Kind.isParen, Token.Kind.isOperand]
    refine ⟨.operand token.text :: finished, ?_, fun rest => build_operand hoperand rest finished⟩
    simp only [List.length_cons, surplus_append, surplus_cons, surplus_nil,
      weight_operand hoperand]
    omega

/-- Tokens none of which offends are all read, and leave as many subtrees as they have operands in
excess of operators. -/
theorem Orderly.build (horderly : Orderly tokens) :
    ∃ finished : List Expr, (finished.length : Int) = surplus tokens ∧
      ∀ rest, build (tokens ++ rest) [] = build rest finished := by
  induction tokens using List.reverseRecOn with
  | nil => exact ⟨[], by simp, fun rest => rfl⟩
  | append_singleton tokens last ih =>
      obtain ⟨hbefore, hnone⟩ := orderly_concat_iff.mp horderly
      obtain ⟨finished, hlength, hread⟩ := ih hbefore
      obtain ⟨finished', hlength', hstep⟩ := exists_build_of_not_offends hnone hlength
      refine ⟨finished', hlength', ?_⟩
      intro rest
      rw [List.append_assoc, List.singleton_append, hread, hstep]

/-! ## Listings and other lists -/

theorem ofListing_eq_build (hne : tokens ≠ []) : ofListing tokens = build tokens [] := by
  rw [ofListing, if_neg (by simpa using hne)]

theorem Rejected.ofListing (hrejected : Rejected tokens fault) (hne : tokens ≠ []) :
    ofListing tokens = .error fault := by
  rw [ofListing_eq_build hne]
  cases hrejected with
  | offence hsplit hbefore hoffends =>
      obtain ⟨finished, hlength, hread⟩ := hbefore.build
      rw [hsplit, hread]
      exact hoffends.build hlength _
  | count horderly hcount =>
      obtain ⟨finished, hlength, hread⟩ := horderly.build
      rw [← List.append_nil tokens, hread]
      apply build_nil_of_length_ne_one
      omega

/-- Where no token offends and the number is right, a tree is built. -/
theorem Orderly.exists_tree (horderly : Orderly tokens) (hcount : surplus tokens = 1)
    (hne : tokens ≠ []) : ∃ tree, ofListing tokens = .ok tree := by
  obtain ⟨finished, hlength, hread⟩ := horderly.build
  rw [ofListing_eq_build hne, ← List.append_nil tokens, hread]
  have hone : finished.length = 1 := by omega
  obtain ⟨tree, rfl⟩ := List.length_eq_one_iff.mp hone
  exact ⟨tree, by rw [Expr.build]⟩

/-- A list of tokens that lists no tree is rejected for one reason. -/
theorem exists_rejected_or_tree (hne : tokens ≠ []) :
    (∃ tree, ofListing tokens = .ok tree) ∨ ∃ fault, Rejected tokens fault := by
  rcases orderly_or_first_offence tokens with
    horderly | ⟨before, token, after, fault, hsplit, hbefore, hoffends⟩
  · by_cases hcount : surplus tokens = 1
    · exact .inl (horderly.exists_tree hcount hne)
    · exact .inr ⟨_, .count horderly hcount⟩
  · exact .inr ⟨fault, .offence hsplit hbefore hoffends⟩

/-- A tree is built from exactly its listings.  Every other list is rejected, for the first token
that offends or, if none does, for the number of its operands. -/
theorem ofListing_outcome_iff (hne : tokens ≠ []) :
    (∀ tree, ofListing tokens = .ok tree ↔ Listed tree tokens) ∧
      ∀ fault, ofListing tokens = .error fault ↔ Rejected tokens fault := by
  refine ⟨fun tree => ofListing_eq_ok_iff, ?_⟩
  intro fault
  constructor
  · intro hfault
    rcases exists_rejected_or_tree hne with ⟨tree, htree⟩ | ⟨other, hrejected⟩
    · rw [hfault] at htree
      cases htree
    · have hother := hrejected.ofListing hne
      rw [hfault] at hother
      cases hother
      exact hrejected
  · intro hrejected
    exact hrejected.ofListing hne

/-- The operator comes too early, and the parenthesis behind it is not reached. -/
theorem ofListing_outcome_iff_early :
    ofListing [⟨.number, ['1']⟩, ⟨.operator, ['+']⟩, ⟨.opener, ['(']⟩] =
      .error (.malformed .missingOperand) := by
  have hbefore : Orderly [⟨.number, ['1']⟩] := by
    rw [← List.nil_append [_], orderly_concat_iff]
    refine ⟨orderly_nil, ?_⟩
    rintro fault (⟨hparen⟩ | ⟨hkind, -⟩)
    · cases hparen
    · cases hkind
  have hoffends : Offends [⟨.number, ['1']⟩] ⟨.operator, ['+']⟩ (.malformed .missingOperand) :=
    .early rfl (by decide)
  rw [(ofListing_outcome_iff (by simp)).2]
  exact .offence rfl hbefore hoffends

end Formulary.Expr
