import Formulary.Rpn
import Mathlib.Data.List.Count

/-!
# What the arrangement keeps

The three inner loops of the arrangement move tokens from the top of the stack to what is written.
Each loop is described once, by the tokens that it moves and where it stops.  Equal tokens are told
apart by their places: what comes out are the operands and operators that arrived, each from its own
place, and whatever comes out before an operand arrived before it.
-/

namespace Formulary.Rpn

/-! ## What the loops move -/

/-- Operators are released from the top of the stack, the top one first. -/
theorem release_eq_ok {incoming : Text} {stack written stack' written' : List Token}
    (hrelease : release incoming stack written = .ok (stack', written')) :
    ∃ moved, stack = moved ++ stack' ∧ written' = moved.reverse ++ written ∧
      ∀ token ∈ moved, token.kind = .operator := by
  fun_induction release incoming stack written with
  | case1 written =>
      cases hrelease
      exact ⟨[], rfl, rfl, by simp⟩
  | case2 top stack written hkind _ ih =>
      obtain ⟨moved, rfl, rfl, hmoved⟩ := ih hrelease
      exact ⟨top :: moved, by simp, by simp, by simpa using ⟨hkind, hmoved⟩⟩
  | case3 top stack written =>
      cases hrelease
      exact ⟨[], rfl, rfl, by simp⟩
  | case4 => cases hrelease
  | case5 top stack written =>
      cases hrelease
      exact ⟨[], rfl, rfl, by simp⟩

/-- Everything above the nearest opener is moved, and the opener is dropped. -/
theorem close_eq_ok {stack written stack' written' : List Token}
    (hclose : close stack written = .ok (stack', written')) :
    ∃ moved opener, stack = moved ++ opener :: stack' ∧ written' = moved.reverse ++ written ∧
      opener.kind = .opener ∧ ∀ token ∈ moved, token.kind ≠ .opener := by
  fun_induction close stack written with
  | case1 => cases hclose
  | case2 top stack written hkind =>
      cases hclose
      exact ⟨[], top, rfl, rfl, hkind, by simp⟩
  | case3 top stack written hkind ih =>
      obtain ⟨moved, opener, rfl, rfl, hopener, hmoved⟩ := ih hclose
      exact ⟨top :: moved, opener, by simp, by simp, hopener, by simpa using ⟨hkind, hmoved⟩⟩

/-- At the end the whole stack is moved, and no parenthesis is on it. -/
theorem drain_eq_ok {stack written listing : List Token}
    (hdrain : drain stack written = .ok listing) :
    listing = written.reverse ++ stack ∧ ∀ token ∈ stack, ¬ token.kind.isParen := by
  fun_induction drain stack written with
  | case1 written =>
      cases hdrain
      simp
  | case2 => cases hdrain
  | case3 top stack written hkind ih =>
      obtain ⟨rfl, hstack⟩ := ih hdrain
      exact ⟨by simp, by simpa [hkind] using hstack⟩

theorem arrange_of_ofInfix {tokens listing : List Token}
    (harranged : ofInfix tokens = .ok listing) :
    arrange tokens [] [] = .ok listing := by
  unfold ofInfix at harranged
  split at harranged
  · cases harranged
  · exact harranged

/-! ## Places -/

/-- A token with the number of tokens that arrive before it. -/
abbrev Placed := Token × Nat

def isTerm (placed : Placed) : Bool :=
  !placed.1.kind.isParen

def isOperand (placed : Placed) : Bool :=
  placed.1.kind.isOperand

theorem filter_isOperand_isTerm (order : List Placed) :
    (order.filter isTerm).filter isOperand = order.filter isOperand := by
  rw [List.filter_filter]
  apply List.filter_congr
  intro placed _
  cases hkind : placed.1.kind <;>
    simp [isOperand, isTerm, hkind, Token.Kind.isOperand, Token.Kind.isParen]

/-- What comes out before an operand has arrived before it. -/
def InOrder (earlier later : Placed) : Prop :=
  isOperand later → earlier.2 < later.2

/-- The placed tokens that wait and those that are written, last one first, when the tokens in front
of `place` have arrived. -/
structure Placement (place : Nat) (stack written : List Placed) : Prop where
  waiting : ∀ placed ∈ stack, placed.1.kind = .opener ∨ placed.1.kind = .operator
  plain : ∀ placed ∈ written, ¬ placed.1.kind.isParen
  arrived : ∀ placed ∈ stack ++ written, placed.2 < place
  ordered : written.Pairwise fun later earlier => InOrder earlier later

variable {place : Nat} {token : Token} {stack written moved : List Placed}

theorem placement_nil : Placement 0 [] [] :=
  ⟨by simp, by simp, by simp, .nil⟩

/-- An operand is written at once, behind all that has arrived. -/
theorem Placement.operand (hplacement : Placement place stack written)
    (hoperand : token.kind.isOperand) :
    Placement (place + 1) stack ((token, place) :: written) where
  waiting := hplacement.waiting
  plain := by
    refine List.forall_mem_cons.mpr ⟨?_, hplacement.plain⟩
    rcases Token.Kind.isOperand_iff.mp hoperand with hkind | hkind <;>
      simp [hkind, Token.Kind.isParen]
  arrived := by
    intro placed hplaced
    rcases List.mem_cons.mp (List.perm_middle.mem_iff.mp hplaced) with rfl | hbefore
    · exact Nat.lt_succ_self place
    · exact Nat.lt_succ_of_lt (hplacement.arrived placed hbefore)
  ordered := by
    refine List.pairwise_cons.mpr ⟨?_, hplacement.ordered⟩
    intro earlier hearlier _
    exact hplacement.arrived earlier (List.mem_append_right stack hearlier)

/-- Openers and operators wait. -/
theorem Placement.push (hplacement : Placement place stack written)
    (hkind : token.kind = .opener ∨ token.kind = .operator) :
    Placement (place + 1) ((token, place) :: stack) written where
  waiting := List.forall_mem_cons.mpr ⟨hkind, hplacement.waiting⟩
  plain := hplacement.plain
  arrived := by
    intro placed hplaced
    rcases List.mem_cons.mp hplaced with rfl | hbefore
    · exact Nat.lt_succ_self place
    · exact Nat.lt_succ_of_lt (hplacement.arrived placed hbefore)
  ordered := hplacement.ordered

/-- No operand waits, so operators may be written behind anything. -/
theorem Placement.move (hplacement : Placement place (moved ++ stack) written)
    (hmoved : ∀ placed ∈ moved, placed.1.kind ≠ .opener) :
    Placement place stack (moved.reverse ++ written) where
  waiting := (List.forall_mem_append.mp hplacement.waiting).2
  plain := by
    intro placed hplaced
    rcases List.mem_append.mp hplaced with hmem | hbefore
    · have hmem' := List.mem_reverse.mp hmem
      rcases hplacement.waiting placed (List.mem_append_left stack hmem') with hkind | hkind
      · exact absurd hkind (hmoved placed hmem')
      · simp [hkind, Token.Kind.isParen]
    · exact hplacement.plain placed hbefore
  arrived := by
    intro placed hplaced
    apply hplacement.arrived
    simpa [or_left_comm, or_assoc] using hplaced
  ordered := by
    have hnone : ∀ placed ∈ moved.reverse, ∀ earlier, InOrder earlier placed := by
      intro placed hplaced earlier hoperand
      have hmem := List.mem_append_left stack (List.mem_reverse.mp hplaced)
      rcases hplacement.waiting placed hmem with hkind | hkind <;>
        simp [isOperand, hkind, Token.Kind.isOperand] at hoperand
    refine List.pairwise_append.mpr ⟨?_, hplacement.ordered, ?_⟩
    · apply List.pairwise_of_forall_mem_list
      exact fun later hlater earlier _ => hnone later hlater earlier
    · exact fun later hlater earlier _ => hnone later hlater earlier

/-- A closer takes the opener off the stack. -/
theorem Placement.closer {opener : Placed}
    (hplacement : Placement place (opener :: stack) written) :
    Placement (place + 1) stack written where
  waiting := (List.forall_mem_cons.mp hplacement.waiting).2
  plain := hplacement.plain
  arrived := by
    intro placed hplaced
    exact Nat.lt_succ_of_lt (hplacement.arrived placed (List.mem_cons_of_mem opener hplaced))
  ordered := hplacement.ordered

theorem release_placed {incoming : Text} {stack' written' : List Token}
    (hrelease : release incoming (stack.map Prod.fst) (written.map Prod.fst) =
      .ok (stack', written')) :
    ∃ moved below, stack = moved ++ below ∧ stack' = below.map Prod.fst ∧
      written' = (moved.reverse ++ written).map Prod.fst ∧
      ∀ placed ∈ moved, placed.1.kind = .operator := by
  obtain ⟨tokens, hstack, rfl, htokens⟩ := release_eq_ok hrelease
  obtain ⟨moved, below, rfl, rfl, rfl⟩ := List.map_eq_append_iff.mp hstack
  refine ⟨moved, below, rfl, rfl, by simp, ?_⟩
  intro placed hplaced
  exact htokens placed.1 (List.mem_map_of_mem hplaced)

theorem close_placed {stack' written' : List Token}
    (hclose : close (stack.map Prod.fst) (written.map Prod.fst) = .ok (stack', written')) :
    ∃ moved opener below, stack = moved ++ opener :: below ∧ stack' = below.map Prod.fst ∧
      written' = (moved.reverse ++ written).map Prod.fst ∧ opener.1.kind = .opener ∧
      ∀ placed ∈ moved, placed.1.kind ≠ .opener := by
  obtain ⟨tokens, top, hstack, rfl, hopener, htokens⟩ := close_eq_ok hclose
  obtain ⟨moved, rest, rfl, rfl, hrest⟩ := List.map_eq_append_iff.mp hstack
  obtain ⟨opener, below, rfl, rfl, rfl⟩ := List.map_eq_cons_iff.mp hrest
  refine ⟨moved, opener, below, rfl, rfl, by simp, hopener, ?_⟩
  intro placed hplaced
  exact htokens placed.1 (List.mem_map_of_mem hplaced)

/-- Tokens that are moved are not lost. -/
theorem perm_of_move (arriving moved below written : List Placed) :
    (arriving ++ below ++ (moved.reverse ++ written)).Perm
      (arriving ++ (moved ++ below) ++ written) := by
  rw [List.perm_iff_count]
  intro placed
  simp only [List.count_append, List.count_reverse]
  omega

/-- What is written comes out in the order in which it was written. -/
theorem Placement.written_order (hplacement : Placement place [] written) :
    written.reverse.Pairwise InOrder ∧ written.reverse.Perm (written.filter isTerm) := by
  have hterms : written.filter isTerm = written :=
    List.filter_eq_self.mpr (by simpa [isTerm] using hplacement.plain)
  rw [hterms]
  exact ⟨List.pairwise_reverse.mpr hplacement.ordered, List.reverse_perm written⟩

/-- The operands and operators come out, each from its place, in an order that brings none before an
operand that arrived before it. -/
theorem Placement.exists_order {tokens listing : List Token}
    (hplacement : Placement place stack written)
    (harrange : arrange tokens (stack.map Prod.fst) (written.map Prod.fst) = .ok listing) :
    ∃ order : List Placed, listing = order.map Prod.fst ∧ order.Pairwise InOrder ∧
      order.Perm ((tokens.zipIdx place ++ stack ++ written).filter isTerm) := by
  -- On the tokens still to come.  The lists hold the same terms before and after each of them, and
  -- `Placement` keeps what is written in order.
  induction tokens generalizing place stack written with
  | nil =>
      obtain ⟨rfl, hplain⟩ := drain_eq_ok harrange
      have hmoved : ∀ placed ∈ stack, placed.1.kind ≠ .opener := by
        intro placed hplaced hopener
        apply hplain placed.1 (List.mem_map_of_mem hplaced)
        simp [hopener, Token.Kind.isParen]
      -- The drain is a move of the whole stack.
      rw [← List.append_nil stack] at hplacement
      obtain ⟨hordered, hperm⟩ := (hplacement.move hmoved).written_order
      refine ⟨_, by simp, hordered, hperm.trans ?_⟩
      exact ((List.reverse_perm stack).append_right written).filter isTerm
  | cons token rest ih =>
      cases hkind : token.kind with
      | number | identifier =>
          have hoperand : token.kind.isOperand := by simp [hkind, Token.Kind.isOperand]
          simp only [arrange, hkind] at harrange
          obtain ⟨order, hlisting, hordered, hperm⟩ := ih (hplacement.operand hoperand) harrange
          refine ⟨order, hlisting, hordered, hperm.trans ?_⟩
          exact List.perm_middle.filter isTerm
      | opener =>
          simp only [arrange, hkind] at harrange
          obtain ⟨order, hlisting, hordered, hperm⟩ := ih (hplacement.push (.inl hkind)) harrange
          refine ⟨order, hlisting, hordered, hperm.trans ?_⟩
          exact (List.perm_middle.append_right written).filter isTerm
      | operator =>
          simp only [arrange, hkind] at harrange
          split at harrange
          · next hrelease =>
              obtain ⟨moved, below, rfl, rfl, rfl, hmoved⟩ := release_placed hrelease
              have hnone : ∀ placed ∈ moved, placed.1.kind ≠ .opener := by
                intro placed hplaced
                simp [hmoved placed hplaced]
              obtain ⟨order, hlisting, hordered, hperm⟩ :=
                ih ((hplacement.move hnone).push (.inr hkind)) harrange
              refine ⟨order, hlisting, hordered, hperm.trans (List.Perm.filter isTerm ?_)⟩
              calc
                List.Perm (rest.zipIdx (place + 1) ++ (token, place) :: below ++
                    (moved.reverse ++ written))
                  ((token, place) :: (rest.zipIdx (place + 1) ++ below) ++
                    (moved.reverse ++ written)) := List.perm_middle.append_right _
                List.Perm _ ((token :: rest).zipIdx place ++ (moved ++ below) ++ written) :=
                  perm_of_move ((token, place) :: rest.zipIdx (place + 1)) moved below written
          · cases harrange
      | closer =>
          simp only [arrange, hkind] at harrange
          split at harrange
          · next hclose =>
              obtain ⟨moved, opener, below, rfl, rfl, rfl, hopener, hmoved⟩ := close_placed hclose
              obtain ⟨order, hlisting, hordered, hperm⟩ :=
                ih (hplacement.move hmoved).closer harrange
              refine ⟨order, hlisting, hordered, hperm.trans ?_⟩
              have hmove := perm_of_move (rest.zipIdx (place + 1)) moved below written
              simpa [isTerm, hkind, hopener, Token.Kind.isParen] using hmove.filter isTerm
          · cases harrange

/-! ## Terms and operands -/

def terms (tokens : List Token) : List Token :=
  tokens.filter fun token => !token.kind.isParen

def operands (tokens : List Token) : List Token :=
  tokens.filter fun token => token.kind.isOperand

theorem operands_append (tokens others : List Token) :
    operands (tokens ++ others) = operands tokens ++ operands others :=
  List.filter_append ..

theorem operands_cons_of_not {token : Token} (hnot : ¬ token.kind.isOperand)
    (rest : List Token) : operands (token :: rest) = operands rest :=
  List.filter_cons_of_neg hnot

theorem exists_order_of_ofInfix {tokens listing : List Token}
    (harranged : ofInfix tokens = .ok listing) :
    ∃ order : List Placed, listing = order.map Prod.fst ∧ order.Pairwise InOrder ∧
      order.Perm (tokens.zipIdx.filter isTerm) := by
  simpa using placement_nil.exists_order (arrange_of_ofInfix harranged)

theorem map_filter_zipIdx (keep : Token → Bool) (tokens : List Token) :
    (tokens.zipIdx.filter fun placed => keep placed.1).map Prod.fst = tokens.filter keep := by
  calc
    (tokens.zipIdx.filter fun placed => keep placed.1).map Prod.fst
      = (tokens.zipIdx.map Prod.fst).filter keep := List.filter_map.symm
    _ = tokens.filter keep := by rw [List.zipIdx_map_fst]

/-- What comes out are the operands and operators that went in, and no parenthesis. -/
theorem perm_terms_of_ofInfix {tokens listing : List Token}
    (harranged : ofInfix tokens = .ok listing) : listing.Perm (terms tokens) := by
  obtain ⟨order, rfl, -, hperm⟩ := exists_order_of_ofInfix harranged
  rw [terms, ← map_filter_zipIdx]
  exact hperm.map Prod.fst

theorem not_isParen_of_ofInfix {tokens listing : List Token}
    (harranged : ofInfix tokens = .ok listing) : ∀ token ∈ listing, ¬ token.kind.isParen := by
  intro token htoken
  have hterm := (perm_terms_of_ofInfix harranged).mem_iff.mp htoken
  simpa using (List.mem_filter.mp hterm).2

theorem terms_ofInfix {tokens listing : List Token} (harranged : ofInfix tokens = .ok listing) :
    (terms listing).Perm (terms tokens) := by
  have hterms : terms listing = listing :=
    List.filter_eq_self.mpr (by simpa using not_isParen_of_ofInfix harranged)
  rw [hterms]
  exact perm_terms_of_ofInfix harranged

theorem pairwise_zipIdx (tokens : List Token) (place : Nat) :
    (tokens.zipIdx place).Pairwise fun earlier later => earlier.2 < later.2 := by
  induction tokens generalizing place with
  | nil => exact .nil
  | cons token rest ih =>
      refine List.pairwise_cons.mpr ⟨?_, ih (place + 1)⟩
      intro later hlater
      exact List.le_snd_of_mem_zipIdx hlater

/-- Among operands the order is that of their places, so they come out as they went in. -/
theorem operands_ofInfix {tokens listing : List Token} (harranged : ofInfix tokens = .ok listing) :
    operands listing = operands tokens := by
  obtain ⟨order, rfl, hordered, hperm⟩ := exists_order_of_ofInfix harranged
  have hascend : (order.filter isOperand).Pairwise fun earlier later => earlier.2 < later.2 := by
    apply (hordered.filter isOperand).imp_of_mem
    intro earlier later _ hlater hbefore
    exact hbefore (List.mem_filter.mp hlater).2
  have hsame : order.filter isOperand = tokens.zipIdx.filter isOperand := by
    apply List.Perm.eq_of_pairwise _ hascend ((pairwise_zipIdx tokens 0).filter isOperand)
    · rw [← filter_isOperand_isTerm tokens.zipIdx]
      exact hperm.filter isOperand
    · intro placed other _ _ hlt hgt
      omega
  calc
    operands (order.map Prod.fst) = (order.filter isOperand).map Prod.fst := List.filter_map
    _ = (tokens.zipIdx.filter isOperand).map Prod.fst := by rw [hsame]
    _ = operands tokens := map_filter_zipIdx (fun token => token.kind.isOperand) tokens

/-- An order takes every operand and operator of some tokens once, the operands as they stood, and
no operator before an operand that stood in front of it. -/
structure Rearranges (tokens : List Token) (order : List Placed) : Prop where
  perm : order.Perm (tokens.zipIdx.filter isTerm)
  operands : order.Pairwise fun earlier later =>
    isOperand earlier → isOperand later → earlier.2 < later.2
  operators : order.Pairwise fun earlier later =>
    earlier.1.kind = .operator → isOperand later → earlier.2 < later.2

/-- The operands and operators that come out are exactly those that went in, and the operands come
out as they went in.  Moreover the tokens that come out can be traced to their places so that no
operator comes before an operand behind which it stood. -/
theorem ofInfix_rearranges {tokens listing : List Token}
    (harranged : ofInfix tokens = .ok listing) :
    listing.Perm (terms tokens) ∧ operands listing = operands tokens ∧
      ∃ order, listing = order.map Prod.fst ∧ Rearranges tokens order := by
  refine ⟨perm_terms_of_ofInfix harranged, operands_ofInfix harranged, ?_⟩
  obtain ⟨order, hlisting, hordered, hperm⟩ := exists_order_of_ofInfix harranged
  refine ⟨order, hlisting, hperm, ?_, ?_⟩
  · apply hordered.imp
    intro earlier later hbefore _
    exact hbefore
  · apply hordered.imp
    intro earlier later hbefore _
    exact hbefore

/-- Tokens that are no sentence: an operator comes first, and two values stand side by side. -/
def signFirst : List Token :=
  [⟨.operator, ['-']⟩, ⟨.identifier, ['a']⟩, ⟨.opener, ['(']⟩, ⟨.identifier, ['b']⟩,
    ⟨.operator, ['-']⟩, ⟨.identifier, ['a']⟩, ⟨.closer, [')']⟩]

theorem ofInfix_rearranges_signFirst :
    ∃ listing, ofInfix signFirst = .ok listing ∧
      listing.map Token.text = [['a'], ['b'], ['a'], ['-'], ['-']] ∧
      ∃ order, listing = order.map Prod.fst ∧ Rearranges signFirst order := by
  have harranged : ofInfix signFirst =
      .ok [⟨.identifier, ['a']⟩, ⟨.identifier, ['b']⟩, ⟨.identifier, ['a']⟩, ⟨.operator, ['-']⟩,
        ⟨.operator, ['-']⟩] := by decide +kernel
  exact ⟨_, harranged, rfl, (ofInfix_rearranges harranged).2.2⟩

end Formulary.Rpn
