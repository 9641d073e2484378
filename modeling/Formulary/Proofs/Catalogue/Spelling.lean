import Formulary.Proofs.Catalogue.Record

/-!
# Spellings of one formula

Texts are spellings of one formula if their trees have the same canonical text.  The tokens in
reverse Polish order tell the same without any tree: they list the tree, and the text of a token
tells its kind.  So the kinds that are put on record are the same for all spellings, whichever of
them is stored first.
-/

namespace Formulary

namespace Expr

variable {left right : Expr} {listing other : List Token}

/-- Well-formed tokens list one tree only. -/
theorem Listed.canonical_eq_iff (hleft : Listed left listing) (hright : Listed right other)
    (hlisting : ∀ token ∈ listing, token.WellFormed) (hother : ∀ token ∈ other, token.WellFormed) :
    left.canonical = right.canonical ↔ listing.map Token.text = other.map Token.text := by
  constructor
  · intro hcanonical
    obtain rfl := canonical_injective (hleft.wellFormed hlisting) (hright.wellFormed hother)
      hcanonical
    rw [hleft.texts_eq, hright.texts_eq]
  · intro htexts
    obtain rfl := Token.eq_of_texts_eq hlisting hother htexts
    have hsame := (ofListing_listed hleft).symm.trans (ofListing_listed hright)
    rw [Except.ok.inj hsame]

end Expr

namespace Catalogue

/-- Whenever the text is stored, an id is answered, and until the catalogue is cleared the entry
with the id has the kinds. -/
def RecordedWith (text : Text) (kinds : List Token.Kind) : Prop :=
  ∀ (commands : List Command) (first last : Nat), first < last →
    commands[first]? = some (.store (some text)) →
    (∀ between, first < between → between < last → commands[between]? ≠ some .clear) →
    ∃ id entry, (replies commands)[first]? = some (.id id) ∧
      (stateAt commands last).findById id = some entry ∧ entry.kinds = kinds

theorem recordedWith_of_parse {text : Text} {tree : Expr} (hparse : Expr.parse text = .ok tree) :
    RecordedWith text tree.kinds := by
  intro commands first last horder hstored hclear
  obtain ⟨id, hstore⟩ := exists_id_of_store (sound_stateAt commands first) hparse
  have hreply : (replies commands)[first]? = some (.id id) := by
    rw [Run.getElem?_replies hstored]
    exact congrArg some (perform_store_eq_id_iff.mpr hstore)
  obtain ⟨entry, hentry, rfl, other, hsource, htext⟩ := exists_entry_of_reply hstored hreply
  obtain rfl : tree = other := Except.ok.inj (hparse.symm.trans htext)
  have hkept := (grows_stateAt horder hclear).kept.subset hentry
  have hsound := sound_stateAt commands last
  refine ⟨entry.id, entry, hreply, hsound.coherent.findById_eq_some_iff.mpr ⟨hkept, rfl⟩, ?_⟩
  obtain ⟨found, hfound, -, hkinds⟩ := hsound.exists_tree hkept
  obtain rfl : tree = found := Except.ok.inj (hsource.symm.trans hfound)
  exact hkinds

/-- Texts that are read have the same canonical text exactly if their tokens in reverse Polish order
have the same texts.  Then these tokens have the same kinds too, and the entry that is on record for
one of the texts has them, whichever spelling it was made from. -/
theorem canonical_eq_iff_texts_eq {left right : Text} {first second : Expr}
    (hleft : Expr.parse left = .ok first) (hright : Expr.parse right = .ok second) :
    ∃ listing other,
      Token.ofText left >>= Rpn.ofInfix = .ok listing ∧
      Token.ofText right >>= Rpn.ofInfix = .ok other ∧
      (first.canonical = second.canonical ↔ listing.map Token.text = other.map Token.text) ∧
      (first.canonical = second.canonical →
        listing.map Token.kind = other.map Token.kind ∧
          RecordedWith left (listing.map Token.kind) ∧
          RecordedWith right (listing.map Token.kind)) := by
  obtain ⟨listing, hlisting, hlisted, htokens⟩ := Expr.exists_listing_of_parse hleft
  obtain ⟨other, hother, hlisted', htokens'⟩ := Expr.exists_listing_of_parse hright
  have hiff := hlisted.canonical_eq_iff hlisted' htokens htokens'
  refine ⟨listing, other, hlisting, hother, hiff, ?_⟩
  intro hcanonical
  obtain rfl := Token.eq_of_texts_eq htokens htokens' (hiff.mp hcanonical)
  refine ⟨rfl, ?_, ?_⟩
  · rw [hlisted.kinds_eq htokens]
    exact recordedWith_of_parse hleft
  · rw [hlisted'.kinds_eq htokens]
    exact recordedWith_of_parse hright

/-- Superfluous parentheses, and an operator behind its operands. -/
theorem canonical_eq_iff_texts_eq_respelled :
    ∃ first second, Expr.parse "(2*(x)) ^ 3".toList = .ok first ∧
      Expr.parse "(2*x) 3 ^".toList = .ok second ∧ first.canonical = second.canonical ∧
      RecordedWith "(2*x) 3 ^".toList [.number, .identifier, .operator, .number, .operator] := by
  have hleft : Expr.parse "(2*(x)) ^ 3".toList = .ok (.operator ['^']
      (.operator ['*'] (.operand ['2']) (.operand ['x'])) (.operand ['3'])) := by decide +kernel
  have hright : Expr.parse "(2*x) 3 ^".toList = .ok (.operator ['^']
      (.operator ['*'] (.operand ['2']) (.operand ['x'])) (.operand ['3'])) := by decide +kernel
  have hlisted : Token.ofText "(2*(x)) ^ 3".toList >>= Rpn.ofInfix =
      .ok [⟨.number, ['2']⟩, ⟨.identifier, ['x']⟩, ⟨.operator, ['*']⟩, ⟨.number, ['3']⟩,
        ⟨.operator, ['^']⟩] := by decide +kernel
  obtain ⟨listing, other, hlisting, -, -, hrecorded⟩ := canonical_eq_iff_texts_eq hleft hright
  obtain rfl := Except.ok.inj (hlisting.symm.trans hlisted)
  exact ⟨_, _, hleft, hright, rfl, (hrecorded rfl).2.2⟩

end Catalogue

end Formulary
