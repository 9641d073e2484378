import Formulary.Proofs.Cutting.Character
import Mathlib.Data.List.Chain

/-!
# Partitions of a text

A text has at most one partition into well-formed tokens in which neither two names nor two numbers
are neighbours, for the first character of a token tells that the token before it ends there.  The
cutting of a text finds this partition whenever there is one.
-/

namespace Formulary.Token

/-- Two tokens that are not pieces of one run: they are not both names and not both numbers. -/
def Unmerged (left right : Token) : Prop :=
  ¬ (left.kind = .identifier ∧ right.kind = .identifier) ∧
    ¬ (left.kind = .number ∧ right.kind = .number)

/-- The text is made of the texts of well-formed tokens, no two neighbours of which belong to one
run. -/
structure Partition (text : Text) (tokens : List Token) : Prop where
  text_eq : tokens.flatMap Token.text = text
  wellFormed : ∀ token ∈ tokens, token.WellFormed
  unmerged : tokens.IsChain Unmerged

/-! ## Cutting and partitions -/

/-- The first character of a text is the first one of its first token. -/
theorem exists_tells_of_head? {tokens : List Token} {c : Char}
    (htokens : ∀ token ∈ tokens, token.WellFormed)
    (hc : c ∈ (tokens.flatMap Token.text).head?) :
    ∃ next ∈ tokens.head?, Tells next.kind c := by
  cases tokens with
  | nil => cases hc
  | cons next rest =>
      obtain ⟨d, more, htext, htells⟩ := (htokens next List.mem_cons_self).exists_head
      rw [List.flatMap_cons, htext] at hc
      obtain rfl : d = c := Option.some.inj hc
      exact ⟨next, rfl, htells⟩

/-- A token ends where a token that is not of its run begins. -/
theorem ends_of_unmerged {token : Token} {tokens : List Token}
    (htokens : ∀ next ∈ tokens, next.WellFormed)
    (hunmerged : ∀ next ∈ tokens.head?, Unmerged token next) :
    Ends token (tokens.flatMap Token.text) where
  number hkind c hc := by
    obtain ⟨next, hnext, htells⟩ := exists_tells_of_head? htokens hc
    rw [Bool.eq_false_iff]
    intro hdigit
    exact (hunmerged next hnext).2 ⟨hkind, htells.number.mp hdigit⟩
  name hkind c hc := by
    obtain ⟨next, hnext, htells⟩ := exists_tells_of_head? htokens hc
    rw [Bool.eq_false_iff]
    intro hletter
    exact (hunmerged next hnext).1 ⟨hkind, htells.name.mp hletter⟩
  fraction _ d more hrest := by
    obtain ⟨next, -, htells⟩ := exists_tells_of_head? htokens (c := '.') (by rw [hrest]; rfl)
    exact absurd rfl htells.point

/-- A token that ends in front of others is not of one run with the next one. -/
theorem Ends.unmerged {token : Token} {tokens : List Token}
    (hends : Ends token (tokens.flatMap Token.text))
    (htokens : ∀ next ∈ tokens, next.WellFormed) : ∀ next ∈ tokens.head?, Unmerged token next := by
  intro next hnext
  cases tokens with
  | nil => cases hnext
  | cons head rest =>
      obtain rfl : head = next := Option.some.inj hnext
      obtain ⟨c, more, htext, htells⟩ := (htokens head List.mem_cons_self).exists_head
      have hc : c ∈ ((head :: rest).flatMap Token.text).head? := by simp [htext]
      constructor
      · rintro ⟨hkind, hnextKind⟩
        have hletter := htells.name.mpr hnextKind
        simp [hends.name hkind c hc] at hletter
      · rintro ⟨hkind, hnextKind⟩
        have hdigit := htells.number.mpr hnextKind
        simp [hends.number hkind c hc] at hdigit

theorem Cut.partition {text : Text} {tokens : List Token} (hcut : Cut text tokens) :
    Partition text tokens := by
  refine ⟨hcut.text_eq.symm, hcut.wellFormed, ?_⟩
  induction hcut with
  | nil => exact .nil
  | cons hmunch hrest ih =>
      have hends := ends_of_munch hmunch
      rw [hrest.text_eq] at hends
      exact List.isChain_cons.mpr ⟨hends.unmerged hrest.wellFormed, ih⟩

theorem Partition.cut {text : Text} {tokens : List Token} (hpartition : Partition text tokens) :
    Cut text tokens := by
  induction tokens generalizing text with
  | nil =>
      obtain rfl : [] = text := hpartition.text_eq
      exact .nil
  | cons token rest ih =>
      obtain ⟨rfl, hwellFormed, hunmerged⟩ := hpartition
      obtain ⟨htoken, hrest⟩ := List.forall_mem_cons.mp hwellFormed
      obtain ⟨hnext, hchain⟩ := List.isChain_cons.mp hunmerged
      exact .cons (munch_of_ends htoken (ends_of_unmerged hrest hnext)) (ih ⟨rfl, hrest, hchain⟩)

theorem cut_iff_partition {text : Text} {tokens : List Token} :
    Cut text tokens ↔ Partition text tokens :=
  ⟨Cut.partition, Partition.cut⟩

/-- Cutting leaves no choice. -/
theorem Cut.unique {text : Text} {tokens others : List Token} (hcut : Cut text tokens)
    (hother : Cut text others) : others = tokens := by
  have hscan : scan 0 [] text = .ok tokens := scan_eq_ok_iff.mpr ⟨tokens, hcut, rfl⟩
  have hscan' : scan 0 [] text = .ok others := scan_eq_ok_iff.mpr ⟨others, hother, rfl⟩
  rw [hscan] at hscan'
  exact (Except.ok.inj hscan').symm

theorem ofText_eq_ok_iff_partition {text : Text} {tokens : List Token} :
    ofText text = .ok tokens ↔ tokens ≠ [] ∧ Partition text.squeeze tokens := by
  rw [ofText_eq_ok_iff, cut_iff_partition]
  apply and_congr_left
  intro hpartition
  rw [← hpartition.text_eq]
  cases tokens with
  | nil => simp
  | cons token rest =>
      obtain ⟨c, more, htext, -⟩ :=
        (hpartition.wellFormed token List.mem_cons_self).exists_head
      simp [htext]

/-- A text has tokens exactly if there is a partition of what it is without its blanks.  They are at
least one, and there is no other partition.  What comes of a text does not depend on its blanks,
whether or not it has tokens. -/
theorem ofText_partition_and_congr :
    (∀ text tokens, ofText text = .ok tokens ↔ tokens ≠ [] ∧ Partition text.squeeze tokens) ∧
      (∀ text tokens others, ofText text = .ok tokens →
        Partition text.squeeze others → others = tokens) ∧
      ∀ text other : Text, text.squeeze = other.squeeze → ofText text = ofText other := by
  refine ⟨fun _ _ => ofText_eq_ok_iff_partition, ?_, fun _ _ => ofText_congr⟩
  intro text tokens others htext hothers
  exact (ofText_eq_ok_iff.mp htext).2.unique hothers.cut

/-- A blank inside of a numeral does not end it, and a name ends where a digit stands. -/
theorem ofText_partition_and_congr_spaced :
    ∃ tokens, ofText "1 2.5x\t1".toList = .ok tokens ∧
      tokens.map Token.text = ["12.5".toList, "x".toList, "1".toList] ∧
      (∀ others, Partition "12.5x1".toList others → others = tokens) ∧
      ofText "1 2.5x\t1".toList = ofText "12.5x1".toList ∧ ofText "\n ".toList = ofText [] := by
  have htext : ofText "1 2.5x\t1".toList =
      .ok [⟨.number, "12.5".toList⟩, ⟨.identifier, "x".toList⟩, ⟨.number, "1".toList⟩] := by
    decide +kernel
  obtain ⟨-, hunique, hcongr⟩ := ofText_partition_and_congr
  refine ⟨_, htext, rfl, ?_, hcongr _ _ (by decide +kernel), hcongr _ _ (by decide +kernel)⟩
  intro others hothers
  exact hunique _ _ others htext hothers

end Formulary.Token
