import Formulary.Proofs.Blank
import Formulary.Proofs.Grammar
import Formulary.Token.Lexer

/-!
# Texts and their tokens

Each kind of token has its own form of text.  A text is cut into well-formed tokens one after the
other, and a token that is written in front of a text which cannot prolong it is the first one that
is cut off.
-/

namespace Formulary.Token

open Formulary.Grammar (operatorSigns)

/-! ## The forms of tokens -/

def IsDigits (text : Text) : Prop :=
  text ≠ [] ∧ ∀ c ∈ text, c.isDigit

/-- A run of digits, or two of them with a point in between. -/
def IsNumeral (text : Text) : Prop :=
  IsDigits text ∨
    ∃ whole fraction, IsDigits whole ∧ IsDigits fraction ∧ text = whole ++ '.' :: fraction

def IsName (text : Text) : Prop :=
  text ≠ [] ∧ ∀ c ∈ text, c.isAlpha

/-- The text of a token has the form of its kind. -/
def WellFormed (token : Token) : Prop :=
  match token.kind with
  | .number => IsNumeral token.text
  | .identifier => IsName token.text
  | .operator => token.text ∈ operatorSigns
  | .opener => token.text = ['(']
  | .closer => token.text = [')']

theorem toNat_of_isDigit {c : Char} (hdigit : c.isDigit) : 0x30 ≤ c.toNat ∧ c.toNat ≤ 0x39 := by
  simpa [Char.isDigit, UInt32.le_iff_toNat_le] using hdigit

theorem toNat_of_isAlpha {c : Char} (hletter : c.isAlpha) : 0x41 ≤ c.toNat ∧ c.toNat ≤ 0x7A := by
  have hranges : 0x41 ≤ c.toNat ∧ c.toNat ≤ 0x5A ∨ 0x61 ≤ c.toNat ∧ c.toNat ≤ 0x7A := by
    rcases Bool.or_eq_true_iff.mp hletter with hupper | hlower
    · exact .inl (of_decide_eq_true hupper)
    · obtain ⟨habove, hbelow⟩ := Bool.and_eq_true_iff.mp hlower
      exact .inr ⟨of_decide_eq_true habove, of_decide_eq_true hbelow⟩
  omega

theorem isDigit_eq_false_of_isAlpha {c : Char} (hletter : c.isAlpha) : c.isDigit = false := by
  rw [Bool.eq_false_iff]
  intro hdigit
  have habove := (toNat_of_isAlpha hletter).1
  have hbelow := (toNat_of_isDigit hdigit).2
  omega

theorem isDigits_cons {c : Char} {rest : Text} (hdigit : c.isDigit)
    (hrest : ∀ d ∈ rest, d.isDigit) : IsDigits (c :: rest) :=
  ⟨by simp, List.forall_mem_cons.mpr ⟨hdigit, hrest⟩⟩

theorem forall_mem_takeWhile (keep : Char → Bool) (text : Text) :
    ∀ c ∈ text.takeWhile keep, keep c :=
  List.all_eq_true.mp List.all_takeWhile

theorem mem_operatorSigns_of_isOperatorSign {c : Char} (hsign : isOperatorSign c) :
    [c] ∈ operatorSigns := by
  simpa [isOperatorSign, operatorSigns, or_assoc] using hsign

theorem exists_isOperatorSign {sign : Text} (hsign : sign ∈ operatorSigns) :
    ∃ c, sign = [c] ∧ isOperatorSign c := by
  simp only [operatorSigns, List.mem_cons, List.not_mem_nil, or_false] at hsign
  rcases hsign with rfl | rfl | rfl | rfl | rfl <;> exact ⟨_, rfl, rfl⟩

/-- Every token that is cut off is well formed, and is what the text starts with. -/
theorem munch_eq_some {text rest : Text} {token : Token}
    (hmunch : munch text = some (token, rest)) :
    token.WellFormed ∧ text = token.text ++ rest := by
  revert hmunch
  fun_cases munch text with
  | case1 => rintro ⟨⟩
  | case2 c after hdigit whole d more hafter hd =>
      rintro ⟨⟩
      have hwhole : IsDigits whole := isDigits_cons hdigit (forall_mem_takeWhile _ after)
      have hfraction : IsDigits (d :: more.takeWhile Char.isDigit) :=
        isDigits_cons hd (forall_mem_takeWhile _ more)
      have htext : after = after.takeWhile Char.isDigit ++ '.' :: d :: more := by
        rw [← hafter, List.takeWhile_append_dropWhile]
      refine ⟨.inr ⟨whole, _, hwhole, hfraction, rfl⟩, ?_⟩
      simpa [whole] using htext
  | case3 c after hdigit whole d more hafter _ =>
      rintro ⟨⟩
      refine ⟨.inl (isDigits_cons hdigit (forall_mem_takeWhile _ after)), ?_⟩
      simp [whole, ← hafter]
  | case4 c after hdigit whole _ =>
      rintro ⟨⟩
      refine ⟨.inl (isDigits_cons hdigit (forall_mem_takeWhile _ after)), ?_⟩
      simp [whole]
  | case5 c after _ halpha =>
      rintro ⟨⟩
      refine ⟨⟨by simp, List.forall_mem_cons.mpr ⟨halpha, forall_mem_takeWhile _ after⟩⟩, ?_⟩
      simp
  | case6 c after _ _ hsign =>
      rintro ⟨⟩
      exact ⟨mem_operatorSigns_of_isOperatorSign hsign, rfl⟩
  | case7 c after _ _ _ hopener =>
      rintro ⟨⟩
      exact ⟨by simpa [WellFormed] using hopener, rfl⟩
  | case8 c after _ _ _ _ hcloser =>
      rintro ⟨⟩
      exact ⟨by simpa [WellFormed] using hcloser, rfl⟩
  | case9 => rintro ⟨⟩

/-! ## Tokens in front of a text -/

/-- A run of characters in front of a text that does not go on with one. -/
theorem takeWhile_append_stop {keep : Char → Bool} {run rest : Text} (hrun : ∀ c ∈ run, keep c)
    (hstop : ∀ c ∈ rest.head?, keep c = false) :
    (run ++ rest).takeWhile keep = run ∧ (run ++ rest).dropWhile keep = rest := by
  rw [List.takeWhile_append_of_pos hrun, List.dropWhile_append_of_pos hrun]
  cases rest with
  | nil => simp
  | cons c rest => simp [hstop c rfl]

/-- A numeral without a point is cut off whole, unless a digit or a fraction follows. -/
theorem munch_digits {whole rest : Text} (hwhole : IsDigits whole)
    (hstop : ∀ c ∈ rest.head?, c.isDigit = false)
    (hpoint : ∀ d more, rest = '.' :: d :: more → d.isDigit = false) :
    munch (whole ++ rest) = some (⟨.number, whole⟩, rest) := by
  obtain ⟨hne, hdigits⟩ := hwhole
  cases whole with
  | nil => exact absurd rfl hne
  | cons c run =>
      obtain ⟨hdigit, hrun⟩ := List.forall_mem_cons.mp hdigits
      obtain ⟨htake, hdrop⟩ := takeWhile_append_stop hrun hstop
      rw [List.cons_append, munch, if_pos hdigit, htake, hdrop]
      split
      · next d more => rw [if_neg (by simp [hpoint d more rfl])]
      · rfl

/-- A numeral with a point is cut off whole, unless a digit follows. -/
theorem munch_fraction {whole fraction rest : Text} (hwhole : IsDigits whole)
    (hfraction : IsDigits fraction) (hstop : ∀ c ∈ rest.head?, c.isDigit = false) :
    munch (whole ++ '.' :: fraction ++ rest) =
      some (⟨.number, whole ++ '.' :: fraction⟩, rest) := by
  obtain ⟨hne, hdigits⟩ := hwhole
  obtain ⟨hne', hdigits'⟩ := hfraction
  cases whole with
  | nil => exact absurd rfl hne
  | cons c run =>
      cases fraction with
      | nil => exact absurd rfl hne'
      | cons d run' =>
          obtain ⟨hdigit, hrun⟩ := List.forall_mem_cons.mp hdigits
          obtain ⟨hdigit', hrun'⟩ := List.forall_mem_cons.mp hdigits'
          have hpoint : ∀ c ∈ ('.' :: d :: run' ++ rest).head?, c.isDigit = false := by simp
          obtain ⟨htake, hdrop⟩ := takeWhile_append_stop hrun hpoint
          obtain ⟨htake', hdrop'⟩ := takeWhile_append_stop hrun' hstop
          rw [List.append_assoc, List.cons_append, munch, if_pos hdigit, htake, hdrop]
          simp only [List.cons_append]
          rw [if_pos hdigit', htake', hdrop']

/-- A name is cut off whole, unless a letter follows. -/
theorem munch_name {name rest : Text} (hname : IsName name)
    (hstop : ∀ c ∈ rest.head?, c.isAlpha = false) :
    munch (name ++ rest) = some (⟨.identifier, name⟩, rest) := by
  obtain ⟨hne, hletters⟩ := hname
  cases name with
  | nil => exact absurd rfl hne
  | cons c run =>
      obtain ⟨hletter, hrun⟩ := List.forall_mem_cons.mp hletters
      obtain ⟨htake, hdrop⟩ := takeWhile_append_stop hrun hstop
      have hnot : ¬ c.isDigit := by simp [isDigit_eq_false_of_isAlpha hletter]
      rw [List.cons_append, munch, if_neg hnot, if_pos hletter, htake, hdrop]

theorem munch_operator {sign : Text} (hsign : sign ∈ operatorSigns) (rest : Text) :
    munch (sign ++ rest) = some (⟨.operator, sign⟩, rest) := by
  simp only [operatorSigns, List.mem_cons, List.not_mem_nil, or_false] at hsign
  rcases hsign with rfl | rfl | rfl | rfl | rfl <;> rfl

theorem munch_opener (rest : Text) : munch ('(' :: rest) = some (⟨.opener, ['(']⟩, rest) := rfl

theorem munch_closer (rest : Text) : munch (')' :: rest) = some (⟨.closer, [')']⟩, rest) := rfl

/-! ## Where tokens end -/

/-- A token ends in front of a text that does not prolong it: its run does not go on there, and a
run of digits is not followed by a fraction. -/
structure Ends (token : Token) (rest : Text) : Prop where
  number : token.kind = .number → ∀ c ∈ rest.head?, c.isDigit = false
  name : token.kind = .identifier → ∀ c ∈ rest.head?, c.isAlpha = false
  fraction : IsDigits token.text → ∀ d more, rest = '.' :: d :: more → d.isDigit = false

theorem head?_dropWhile (keep : Char → Bool) (text : Text) :
    ∀ c ∈ (text.dropWhile keep).head?, keep c = false := by
  intro c hc
  have hstop := List.head?_dropWhile_not keep text
  rw [hc] at hstop
  exact hstop

theorem not_isDigits_of_mem {text : Text} {c : Char} (hc : c ∈ text) (hnot : ¬ c.isDigit) :
    ¬ IsDigits text :=
  fun hdigits => hnot (hdigits.2 c hc)

theorem ends_of_munch {text rest : Text} {token : Token}
    (hmunch : munch text = some (token, rest)) : Ends token rest := by
  revert hmunch
  fun_cases munch text with
  | case1 => rintro ⟨⟩
  | case2 c after hdigit whole d more hafter hd =>
      rintro ⟨⟩
      have hpoint : ¬ IsDigits (whole ++ '.' :: d :: more.takeWhile Char.isDigit) :=
        not_isDigits_of_mem (c := '.') (by simp) (by decide)
      refine ⟨fun _ => head?_dropWhile Char.isDigit more, by simp, ?_⟩
      intro hdigits
      exact absurd hdigits hpoint
  | case3 c after hdigit whole d more hafter hd =>
      rintro ⟨⟩
      refine ⟨by simp, by simp, ?_⟩
      rintro _ _ _ ⟨⟩
      exact Bool.eq_false_iff.mpr hd
  | case4 c after hdigit whole hpoint =>
      rintro ⟨⟩
      refine ⟨fun _ => head?_dropWhile Char.isDigit after, by simp, ?_⟩
      intro _ d more hrest
      exact absurd hrest (hpoint d more)
  | case5 c after hdigit hletter =>
      rintro ⟨⟩
      refine ⟨by simp, fun _ => head?_dropWhile Char.isAlpha after, ?_⟩
      intro hdigits
      exact absurd hdigits (not_isDigits_of_mem List.mem_cons_self hdigit)
  | case6 c after hdigit | case7 c after hdigit | case8 c after hdigit =>
      rintro ⟨⟩
      refine ⟨by simp, by simp, ?_⟩
      intro hdigits
      exact absurd hdigits (not_isDigits_of_mem List.mem_cons_self hdigit)
  | case9 => rintro ⟨⟩

theorem munch_of_ends {token : Token} {rest : Text} (hwellFormed : token.WellFormed)
    (hends : Ends token rest) : munch (token.text ++ rest) = some (token, rest) := by
  obtain ⟨kind, text⟩ := token
  cases kind with
  | number =>
      rcases hwellFormed with hwhole | ⟨whole, fraction, hwhole, hfraction, htext⟩
      · exact munch_digits hwhole (hends.number rfl) (hends.fraction hwhole)
      · obtain rfl : text = whole ++ '.' :: fraction := htext
        exact munch_fraction hwhole hfraction (hends.number rfl)
  | identifier => exact munch_name hwellFormed (hends.name rfl)
  | operator => exact munch_operator hwellFormed rest
  | opener =>
      obtain rfl : text = ['('] := hwellFormed
      exact munch_opener rest
  | closer =>
      obtain rfl : text = [')'] := hwellFormed
      exact munch_closer rest

/-- The first token that is cut off is the well-formed piece of the text that ends in front of the
rest. -/
theorem munch_eq_some_iff {text rest : Text} {token : Token} :
    munch text = some (token, rest) ↔
      token.WellFormed ∧ Ends token rest ∧ text = token.text ++ rest := by
  constructor
  · intro hmunch
    obtain ⟨hwellFormed, htext⟩ := munch_eq_some hmunch
    exact ⟨hwellFormed, ends_of_munch hmunch, htext⟩
  · rintro ⟨hwellFormed, hends, rfl⟩
    exact munch_of_ends hwellFormed hends

theorem ends_nil (token : Token) : Ends token [] where
  number := by simp
  name := by simp
  fraction := by simp

/-- A well-formed token is what is cut off its own text. -/
theorem munch_text {token : Token} (hwellFormed : token.WellFormed) :
    munch token.text = some (token, []) := by
  simpa using munch_of_ends hwellFormed (ends_nil token)

/-- The text of a well-formed token tells its kind. -/
theorem WellFormed.eq_of_text_eq {token other : Token} (hwellFormed : token.WellFormed)
    (hother : other.WellFormed) (htext : token.text = other.text) : token = other := by
  have hmunch := munch_text hwellFormed
  rw [htext, munch_text hother] at hmunch
  cases hmunch
  rfl

theorem eq_of_texts_eq {tokens others : List Token} (htokens : ∀ token ∈ tokens, token.WellFormed)
    (hothers : ∀ token ∈ others, token.WellFormed)
    (htexts : tokens.map Token.text = others.map Token.text) : tokens = others := by
  induction tokens generalizing others with
  | nil => exact (List.map_eq_nil_iff.mp htexts.symm).symm
  | cons token tokens ih =>
      obtain ⟨other, others, rfl, htext, hrest⟩ := List.map_eq_cons_iff.mp htexts.symm
      obtain ⟨htoken, htokens⟩ := List.forall_mem_cons.mp htokens
      obtain ⟨hother, hothers⟩ := List.forall_mem_cons.mp hothers
      rw [htoken.eq_of_text_eq hother htext.symm, ih htokens hothers hrest.symm]

/-! ## Whole texts -/

/-- The tokens are cut off the text one after the other until nothing is left. -/
inductive Cut : Text → List Token → Prop
  | nil : Cut [] []
  | cons {text rest : Text} {token : Token} {tokens : List Token}
      (hmunch : munch text = some (token, rest)) (hrest : Cut rest tokens) :
      Cut text (token :: tokens)

theorem scan_eq_ok_iff {position : Nat} {found : List Token} {text : Text} {tokens : List Token} :
    scan position found text = .ok tokens ↔
      ∃ cut, Cut text cut ∧ tokens = found.reverse ++ cut := by
  fun_induction scan position found text with
  | case1 position found text token rest hmunch ih =>
      rw [ih]
      constructor
      · rintro ⟨cut, hcut, rfl⟩
        exact ⟨token :: cut, .cons hmunch hcut, by simp⟩
      · rintro ⟨cut, hcut, rfl⟩
        cases hcut with
        | nil => simp [munch] at hmunch
        | cons hmunch' hrest =>
            obtain ⟨rfl, rfl⟩ : _ = token ∧ _ = rest := by simpa [hmunch] using hmunch'.symm
            exact ⟨_, hrest, by simp⟩
  | case2 position found =>
      constructor
      · intro hscan
        cases hscan
        exact ⟨[], .nil, by simp⟩
      · rintro ⟨cut, hcut, rfl⟩
        cases hcut with
        | nil => simp
        | cons hmunch => simp [munch] at hmunch
  | case3 position found c rest hmunch =>
      constructor
      · intro hscan
        cases hscan
      · rintro ⟨cut, hcut, -⟩
        cases hcut with
        | cons hmunch' => rw [hmunch] at hmunch'; cases hmunch'

theorem illegalCharacter_of_scan {position : Nat} {found : List Token} {text : Text}
    {fault : Fault} (hscan : scan position found text = .error fault) :
    ∃ c place, fault = .malformed (.illegalCharacter c place) := by
  fun_induction scan position found text with
  | case1 _ _ _ _ _ _ ih => exact ih hscan
  | case2 => cases hscan
  | case3 position _ c =>
      cases hscan
      exact ⟨c, position, rfl⟩

/-- Only the empty text is cut into no tokens. -/
theorem cut_nil_iff {text : Text} : Cut text [] ↔ text = [] := by
  constructor
  · rintro ⟨⟩
    rfl
  · rintro rfl
    exact .nil

/-- A text that is not blank never comes to no tokens. -/
theorem ofText_eq_scan {text : Text} (hsolid : text.allBlank = false) :
    ofText text = scan 0 [] text.squeeze := by
  have hsqueeze : text.squeeze ≠ [] := by
    simpa [Text.allBlank_eq_isEmpty_squeeze] using hsolid
  rw [ofText, if_neg (by simp [hsolid])]
  cases hscan : scan 0 [] text.squeeze with
  | error fault => rfl
  | ok tokens =>
      obtain ⟨_, hcut, rfl⟩ := scan_eq_ok_iff.mp hscan
      cases tokens with
      | nil => exact absurd (cut_nil_iff.mp hcut) hsqueeze
      | cons => rfl

theorem ofText_ne_noValidTokens (text : Text) :
    ofText text ≠ .error (.malformed .noValidTokens) := by
  intro htext
  cases hsolid : text.allBlank with
  | true => simp [ofText, hsolid] at htext
  | false =>
      rw [ofText_eq_scan hsolid] at htext
      obtain ⟨_, _, hfault⟩ := illegalCharacter_of_scan htext
      cases hfault

/-- A text has tokens if it is not blank and is cut into them once its blanks are gone. -/
theorem ofText_eq_ok_iff {text : Text} {tokens : List Token} :
    ofText text = .ok tokens ↔ text.squeeze ≠ [] ∧ Cut text.squeeze tokens := by
  have hblank := Text.allBlank_eq_isEmpty_squeeze text
  cases hsolid : text.allBlank with
  | true => simp_all [ofText]
  | false =>
      rw [ofText_eq_scan hsolid]
      simp_all [scan_eq_ok_iff]

/-- The tokens of a text do not depend on its blanks. -/
theorem ofText_congr {text other : Text} (hsqueeze : text.squeeze = other.squeeze) :
    ofText text = ofText other := by
  unfold ofText
  rw [Text.allBlank_eq_isEmpty_squeeze, Text.allBlank_eq_isEmpty_squeeze, hsqueeze]

theorem Cut.wellFormed {text : Text} {tokens : List Token} (hcut : Cut text tokens) :
    ∀ token ∈ tokens, token.WellFormed := by
  induction hcut with
  | nil => simp
  | cons hmunch _ ih => exact List.forall_mem_cons.mpr ⟨(munch_eq_some hmunch).1, ih⟩

theorem Cut.text_eq {text : Text} {tokens : List Token} (hcut : Cut text tokens) :
    text = tokens.flatMap Token.text := by
  induction hcut with
  | nil => rfl
  | cons hmunch _ ih => rw [(munch_eq_some hmunch).2, List.flatMap_cons, ← ih]

/-! ## Texts without blanks -/

theorem isBlank_of_isDigit {c : Char} (hdigit : c.isDigit) : isBlank c = false := by
  have hrange := toNat_of_isDigit hdigit
  exact Text.isBlank_eq_false (by omega) (by omega)

theorem isBlank_of_isAlpha {c : Char} (hletter : c.isAlpha) : isBlank c = false := by
  have hrange := toNat_of_isAlpha hletter
  exact Text.isBlank_eq_false (by omega) (by omega)

theorem WellFormed.solid {token : Token} (hwellFormed : token.WellFormed) :
    ∀ c ∈ token.text, isBlank c = false := by
  obtain ⟨kind, text⟩ := token
  cases kind with
  | number =>
      rcases hwellFormed with hdigits | ⟨whole, fraction, hwhole, hfraction, htext⟩
      · exact fun c hc => isBlank_of_isDigit (hdigits.2 c hc)
      · rw [show text = whole ++ '.' :: fraction from htext]
        intro c hc
        rcases List.mem_append.mp hc with hc | hc
        · exact isBlank_of_isDigit (hwhole.2 c hc)
        · rcases List.mem_cons.mp hc with rfl | hc
          · rfl
          · exact isBlank_of_isDigit (hfraction.2 c hc)
  | identifier => exact fun c hc => isBlank_of_isAlpha (hwellFormed.2 c hc)
  | operator =>
      simp only [WellFormed, operatorSigns, List.mem_cons, List.not_mem_nil, or_false]
        at hwellFormed
      rcases hwellFormed with rfl | rfl | rfl | rfl | rfl <;> simp [Text.isBlank_eq_false]
  | opener | closer =>
      simp only [WellFormed] at hwellFormed
      rw [hwellFormed]
      simp [Text.isBlank_eq_false]

theorem Cut.solid {text : Text} {tokens : List Token} (hcut : Cut text tokens) :
    ∀ c ∈ text, isBlank c = false := by
  intro c hc
  rw [hcut.text_eq] at hc
  obtain ⟨token, htoken, hmem⟩ := List.mem_flatMap.mp hc
  exact (hcut.wellFormed token htoken).solid c hmem

/-- A text that is cut into tokens has no blanks, so these are its tokens. -/
theorem ofText_of_cut {text : Text} {tokens : List Token} (hcut : Cut text tokens)
    (hne : text ≠ []) : ofText text = .ok tokens := by
  have hsqueeze := Text.squeeze_eq_self hcut.solid
  rw [ofText_eq_ok_iff, hsqueeze]
  exact ⟨hne, hcut⟩

end Formulary.Token
