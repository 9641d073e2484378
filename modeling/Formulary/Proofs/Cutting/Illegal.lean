import Formulary.Proofs.Cutting.Character
import Mathlib.Data.List.Basic
import Mathlib.Data.List.DropRight

/-!
# Characters that belong to no token

A text without blanks is cut into tokens unless one of its characters is out of place, and the first
such character is reported.  Most characters are in place anywhere or nowhere.  Only a point depends
on what is around it: it has to stand between two runs of digits, the first of which is not itself
the fraction of another point.
-/

namespace Formulary.Token

variable {front rest : Text} {token : Token} {c : Char}

/-! ## Characters in place -/

/-- A digit follows the point, and in front of it is a run of digits that stands behind no other
point. -/
def IsFractionPoint (before after : Text) : Prop :=
  (∃ d ∈ after.head?, d.isDigit) ∧ before.rtakeWhile Char.isDigit ≠ [] ∧
    (before.rdropWhile Char.isDigit).getLast? ≠ some '.'

/-- A character may stand between the two texts. -/
def Fits (before : Text) (c : Char) (after : Text) : Prop :=
  c.isDigit ∨ c.isAlpha ∨ isOperatorSign c ∨ c = '(' ∨ c = ')' ∨
    c = '.' ∧ IsFractionPoint before after

/-- The text has a character at the position that may not stand there. -/
def IllegalAt (text : Text) (position : Nat) : Prop :=
  ∃ c, text[position]? = some c ∧ ¬ Fits (text.take position) c (text.drop (position + 1))

theorem illegalAt_iff {text : Text} {position : Nat} :
    IllegalAt text position ↔
      ∃ before c after, text = before ++ c :: after ∧ before.length = position ∧
        ¬ Fits before c after := by
  constructor
  · rintro ⟨c, hc, hnot⟩
    obtain ⟨hlt, rfl⟩ := List.getElem?_eq_some_iff.mp hc
    refine ⟨text.take position, _, text.drop (position + 1), ?_, by simp; omega, hnot⟩
    rw [List.getElem_cons_drop, List.take_append_drop]
  · rintro ⟨before, c, after, rfl, rfl, hnot⟩
    refine ⟨c, by simp, ?_⟩
    simpa using hnot

/-- A run of characters behind a text that does not end in one. -/
theorem rtakeWhile_append_stop {keep : Char → Bool} {run : Text} (hrun : ∀ c ∈ run, keep c)
    (hstop : ∀ c ∈ front.getLast?, keep c = false) :
    (front ++ run).rtakeWhile keep = run ∧ (front ++ run).rdropWhile keep = front := by
  rw [← List.head?_reverse] at hstop
  have hrun' : ∀ c ∈ run.reverse, keep c := fun c hc => hrun c (List.mem_reverse.mp hc)
  obtain ⟨htake, hdrop⟩ := takeWhile_append_stop hrun' hstop
  rw [List.rtakeWhile, List.rdropWhile, List.reverse_append, htake, hdrop, List.reverse_reverse,
    List.reverse_reverse]
  exact ⟨rfl, rfl⟩

/-! ## Boundaries of tokens -/

/-- A token ends between the two texts, or the first one begins there. -/
structure Boundary (front text : Text) : Prop where
  digit : ∀ c ∈ front.getLast?, c.isDigit → ∀ d ∈ text.head?, d.isDigit = false
  point : ∀ c ∈ front.getLast?, c ≠ '.'
  fraction : ∀ after, text = '.' :: after → ¬ IsFractionPoint front after

theorem boundary_nil (text : Text) : Boundary [] text :=
  ⟨by simp, by simp, fun _ _ hpoint => hpoint.2.1 rfl⟩

/-- No run of digits that begins at a boundary begins earlier. -/
theorem Boundary.isDigit_eq_false {whole : Text} (hboundary : Boundary front (whole ++ rest))
    (hwhole : IsDigits whole) : ∀ c ∈ front.getLast?, c.isDigit = false := by
  intro c hc
  obtain ⟨d, more, rfl, hd⟩ := hwhole.exists_head
  rw [Bool.eq_false_iff]
  intro hdigit
  simp [hboundary.digit c hc hdigit d rfl] at hd

/-- The point of a numeral is in place. -/
theorem Boundary.isFractionPoint {whole fraction : Text}
    (hboundary : Boundary front (whole ++ '.' :: fraction ++ rest)) (hwhole : IsDigits whole)
    (hfraction : IsDigits fraction) : IsFractionPoint (front ++ whole) (fraction ++ rest) := by
  rw [List.append_assoc] at hboundary
  obtain ⟨hrun, hbehind⟩ := rtakeWhile_append_stop hwhole.2 (hboundary.isDigit_eq_false hwhole)
  refine ⟨?_, by simpa [hrun] using hwhole.1, ?_⟩
  · obtain ⟨d, more, rfl, hd⟩ := hfraction.exists_head
    exact ⟨d, rfl, hd⟩
  · rw [hbehind]
    intro hlast
    exact hboundary.point '.' hlast rfl

/-- Every character of a token is in place. -/
theorem Boundary.fits (hboundary : Boundary front (token.text ++ rest))
    (hwellFormed : token.WellFormed) {before after : Text}
    (htext : token.text = before ++ c :: after) : Fits (front ++ before) c (after ++ rest) := by
  obtain ⟨kind, text⟩ := token
  obtain rfl : text = before ++ c :: after := htext
  have hc : c ∈ before ++ c :: after := by simp
  have hsame (d : Char) (hsingle : before ++ c :: after = [d]) : c = d := by
    rw [hsingle] at hc
    exact List.mem_singleton.mp hc
  cases kind with
  | number =>
      rcases hwellFormed with hdigits | ⟨whole, fraction, hwhole, hfraction, hsplit⟩
      · exact .inl (hdigits.2 c hc)
      · by_cases hdigit : c.isDigit
        · exact .inl hdigit
        · have hnotWhole : c ∉ whole := fun hmem => hdigit (hwhole.2 c hmem)
          have hnotFraction : c ∉ fraction := fun hmem => hdigit (hfraction.2 c hmem)
          obtain ⟨rfl, rfl, rfl⟩ :=
            (List.append_cons_inj_of_notMem hnotWhole hnotFraction).mp hsplit.symm
          have hpoint := hboundary.isFractionPoint hwhole hfraction
          simp [Fits, hpoint]
  | identifier => exact .inr (.inl (hwellFormed.2 c hc))
  | operator =>
      obtain ⟨sign, hsingle, hsign⟩ := exists_isOperatorSign hwellFormed
      obtain rfl := hsame sign hsingle
      simp [Fits, hsign]
  | opener =>
      obtain rfl := hsame '(' hwellFormed
      simp [Fits]
  | closer =>
      obtain rfl := hsame ')' hwellFormed
      simp [Fits]

/-- What follows a token is no fraction, neither of the token nor of a part of it. -/
theorem not_isFractionPoint_of_ends {after : Text} (hwellFormed : token.WellFormed)
    (hends : Ends token ('.' :: after)) : ¬ IsFractionPoint (front ++ token.text) after := by
  rintro ⟨⟨d, hd, hdigit⟩, hrun, hbehind⟩
  by_cases hkind : token.kind = .number
  · simp only [WellFormed, hkind] at hwellFormed
    rcases hwellFormed with hdigits | ⟨whole, fraction, -, hfraction, htext⟩
    · obtain ⟨more, rfl⟩ := List.head?_eq_some_iff.mp hd
      simp [hends.fraction hdigits d more rfl] at hdigit
    · -- The digits in front of the point are the fraction of the token, behind its own point.
      have hstop : ∀ c ∈ (front ++ whole ++ ['.']).getLast?, c.isDigit = false := by simp
      have hsplit : front ++ token.text = front ++ whole ++ ['.'] ++ fraction := by simp [htext]
      rw [hsplit, (rtakeWhile_append_stop hfraction.2 hstop).2] at hbehind
      simp at hbehind
  · obtain ⟨inner, last, htext, htells⟩ := hwellFormed.exists_last
    rw [htext, ← List.append_assoc, List.rtakeWhile_concat_neg] at hrun
    · exact hrun rfl
    · exact fun hlast => hkind (htells.number.mp hlast)

/-- A token leads from one boundary to the next. -/
theorem Boundary.next (hwellFormed : token.WellFormed) (hends : Ends token rest) :
    Boundary (front ++ token.text) rest := by
  obtain ⟨inner, last, htext, htells⟩ := hwellFormed.exists_last
  have hlast : ∀ c ∈ (front ++ token.text).getLast?, c = last := by
    intro c hc
    simpa [htext, eq_comm] using hc
  refine ⟨?_, ?_, ?_⟩
  · intro c hc hdigit
    rw [hlast c hc] at hdigit
    exact hends.number (htells.number.mp hdigit)
  · intro c hc
    rw [hlast c hc]
    exact htells.point
  · rintro after rfl
    exact not_isFractionPoint_of_ends hwellFormed hends

theorem munch_eq_none {after : Text} (hmunch : munch (c :: after) = none) :
    ¬ c.isDigit ∧ ¬ c.isAlpha ∧ ¬ isOperatorSign c ∧ c ≠ '(' ∧ c ≠ ')' := by
  rw [munch] at hmunch
  split_ifs at hmunch with hdigit hletter hsign hopener hcloser
  · split at hmunch
    · split_ifs at hmunch
    · cases hmunch
  · exact ⟨hdigit, hletter, hsign, by simpa using hopener, by simpa using hcloser⟩

/-- A character that begins no token at a boundary is out of place. -/
theorem Boundary.not_fits {after : Text} (hboundary : Boundary front (c :: after))
    (hmunch : munch (c :: after) = none) : ¬ Fits front c after := by
  obtain ⟨hdigit, hletter, hsign, hopener, hcloser⟩ := munch_eq_none hmunch
  rintro (hfits | hfits | hfits | hfits | hfits | ⟨rfl, hpoint⟩)
  · exact hdigit hfits
  · exact hletter hfits
  · exact hsign hfits
  · exact hopener hfits
  · exact hcloser hfits
  · exact hboundary.fraction after rfl hpoint

/-! ## Scanning -/

/-- A split of three texts inside of the middle one. -/
theorem split_middle {middle before after : Text}
    (hsplit : front ++ middle ++ rest = before ++ c :: after) (hlow : front.length ≤ before.length)
    (hhigh : before.length < (front ++ middle).length) :
    ∃ inner tail, before = front ++ inner ∧ middle = inner ++ c :: tail ∧ after = tail ++ rest := by
  have hfront : front <+: front ++ middle ++ rest := ⟨middle ++ rest, by simp⟩
  have hbefore : before <+: front ++ middle ++ rest := ⟨c :: after, hsplit.symm⟩
  have hthrough : before ++ [c] <+: front ++ middle ++ rest := ⟨after, by simp [hsplit]⟩
  have hmiddle : front ++ middle <+: front ++ middle ++ rest := List.prefix_append _ _
  have hwithin : (before ++ [c]).length ≤ (front ++ middle).length := by
    rw [List.length_append, List.length_singleton]
    exact hhigh
  obtain ⟨inner, rfl⟩ := List.prefix_of_prefix_length_le hfront hbefore hlow
  obtain ⟨tail, htail⟩ := List.prefix_of_prefix_length_le hthrough hmiddle hwithin
  have hinner : front ++ middle = front ++ (inner ++ c :: tail) := by
    rw [← htail]
    simp
  obtain rfl := List.append_cancel_left hinner
  have hrest : after = tail ++ rest := by simpa [eq_comm] using hsplit
  exact ⟨inner, tail, rfl, rfl, hrest⟩

/-- What scanning a text comes to, by its first character that is out of place. -/
inductive Scanned (text : Text) : Except Fault (List Token) → Prop
  | legal (tokens : List Token) (hnone : ∀ position, ¬ IllegalAt text position) :
      Scanned text (.ok tokens)
  | illegal {position : Nat} {c : Char} (hc : text[position]? = some c)
      (hillegal : IllegalAt text position)
      (hfirst : ∀ earlier < position, ¬ IllegalAt text earlier) :
      Scanned text (.error (.malformed (.illegalCharacter c position)))

theorem IllegalAt.lt_length {text : Text} {position : Nat} (hillegal : IllegalAt text position) :
    position < text.length := by
  obtain ⟨c, hc, -⟩ := hillegal
  exact (List.getElem?_eq_some_iff.mp hc).1

/-- From a boundary on, behind characters that are in place. -/
theorem scanned_scan {position : Nat} {found : List Token} {text : Text}
    (hboundary : Boundary front text) (hposition : position = front.length)
    (hfront : ∀ earlier < position, ¬ IllegalAt (front ++ text) earlier) :
    Scanned (front ++ text) (scan position found text) := by
  fun_induction scan position found text generalizing front with
  | case1 position found text token rest hmunch ih =>
      obtain ⟨hwellFormed, hends, rfl⟩ := munch_eq_some_iff.mp hmunch
      rw [← List.append_assoc] at hfront ⊢
      apply ih (Boundary.next hwellFormed hends)
      · rw [hposition, List.length_append]
      · intro earlier hearlier hillegal
        -- The position is in front of the token, or it is one of the token itself.
        by_cases hbefore : earlier < position
        · exact hfront earlier hbefore hillegal
        · obtain ⟨before, c, after, hsplit, rfl, hnot⟩ := illegalAt_iff.mp hillegal
          rw [hposition] at hearlier hbefore
          obtain ⟨inner, tail, rfl, htext, rfl⟩ :=
            split_middle hsplit (Nat.le_of_not_lt hbefore) (by simpa using hearlier)
          exact hnot (hboundary.fits hwellFormed htext)
  | case2 position found =>
      apply Scanned.legal
      intro earlier hillegal
      have hlt := hillegal.lt_length
      rw [List.append_nil] at hlt
      exact hfront earlier (by omega) hillegal
  | case3 position found c after hmunch =>
      have hillegal : IllegalAt (front ++ c :: after) position :=
        illegalAt_iff.mpr ⟨front, c, after, rfl, hposition.symm, hboundary.not_fits hmunch⟩
      exact .illegal (by simp [hposition]) hillegal hfront

/-- A text that is not blank fails to be cut exactly if some character of what it is without its
blanks is out of place.  What is reported is the first such character with its position. -/
theorem ofText_error_iff_illegalAt {text : Text} (hsolid : text.allBlank = false) :
    ((∃ fault, ofText text = .error fault) ↔ ∃ position, IllegalAt text.squeeze position) ∧
      ∀ fault, ofText text = .error fault →
        ∃ position c, fault = .malformed (.illegalCharacter c position) ∧
          text.squeeze[position]? = some c ∧ IllegalAt text.squeeze position ∧
          ∀ earlier < position, ¬ IllegalAt text.squeeze earlier := by
  have hscanned : Scanned text.squeeze (ofText text) := by
    rw [ofText_eq_scan hsolid]
    exact scanned_scan (boundary_nil text.squeeze) rfl (by simp)
  generalize ofText text = result at hscanned
  cases hscanned with
  | legal tokens hnone => simpa using hnone
  | @illegal position c hc hillegal hfirst =>
      constructor
      · exact ⟨fun _ => ⟨position, hillegal⟩, fun _ => ⟨_, rfl⟩⟩
      · rintro _ ⟨⟩
        exact ⟨position, c, rfl, hc, hillegal, hfirst⟩

/-- The second point is out of place, because the digits in front of it are those of a fraction. -/
theorem ofText_error_iff_illegalAt_pointed :
    Text.allBlank "x + 1.2 .5@".toList = false ∧
      ofText "x + 1.2 .5@".toList = .error (.malformed (.illegalCharacter '.' 5)) ∧
      IllegalAt "x+1.2.5@".toList 5 ∧ ∀ earlier < 5, ¬ IllegalAt "x+1.2.5@".toList earlier := by
  have hsolid : Text.allBlank "x + 1.2 .5@".toList = false := by decide +kernel
  have hfault : ofText "x + 1.2 .5@".toList = .error (.malformed (.illegalCharacter '.' 5)) := by
    decide +kernel
  obtain ⟨position, c, hsame, -, hillegal, hfirst⟩ :=
    (ofText_error_iff_illegalAt hsolid).2 _ hfault
  cases hsame
  exact ⟨hsolid, hfault, hillegal, hfirst⟩

end Formulary.Token
