import Formulary.Text
import Mathlib.Data.List.DropRight

/-!
# Removing blanks

Trimming a text takes blanks away and nothing else, so it is not seen behind squeezing, which takes
all of them away.
-/

namespace Formulary.Text

theorem allBlank_eq_isEmpty_squeeze (text : Text) : text.allBlank = text.squeeze.isEmpty := by
  induction text with
  | nil => rfl
  | cons c rest ih =>
      by_cases hblank : isBlank c <;> simp_all [allBlank, squeeze]

theorem squeeze_dropWhile (text : Text) : squeeze (text.dropWhile isBlank) = text.squeeze := by
  induction text with
  | nil => rfl
  | cons c rest ih =>
      by_cases hblank : isBlank c
      · rw [List.dropWhile_cons_of_pos hblank, ih]
        simp [squeeze, hblank]
      · rw [List.dropWhile_cons_of_neg hblank]

theorem squeeze_reverse (text : Text) : squeeze text.reverse = text.squeeze.reverse :=
  List.filter_reverse

theorem squeeze_trim (text : Text) : text.trim.squeeze = text.squeeze := by
  unfold trim trimBy
  rw [squeeze_reverse, squeeze_dropWhile, squeeze_reverse, List.reverse_reverse, squeeze_dropWhile]

/-- What is trimmed has no blank in front, and stays so when the blanks behind it are dropped. -/
theorem trim_trim (text : Text) : text.trim.trim = text.trim := by
  have hfront : text.trim.dropWhile isBlank = text.trim := by
    rw [List.dropWhile_eq_self_iff]
    intro hpos
    have hbegins : text.trim <+: text.dropWhile isBlank := List.rdropWhile_prefix _ _
    rw [hbegins.getElem hpos]
    exact List.dropWhile_get_zero_not isBlank text _
  calc text.trim.trim
    _ = text.trim.rdropWhile isBlank := by rw [trim, trimBy, hfront, List.rdropWhile]
    _ = text.trim := List.rdropWhile_idempotent _ _

theorem allBlank_trim (text : Text) : text.trim.allBlank = text.allBlank := by
  rw [allBlank_eq_isEmpty_squeeze, squeeze_trim, ← allBlank_eq_isEmpty_squeeze]

theorem squeeze_eq_self {text : Text} (hsolid : ∀ c ∈ text, isBlank c = false) :
    text.squeeze = text :=
  List.filter_eq_self.mpr (by simpa using hsolid)

/-- Between the space and the end of ASCII nothing is blank. -/
theorem isBlank_eq_false {c : Char} (habove : 0x20 < c.toNat) (hbelow : c.toNat < 0x80) :
    isBlank c = false := by
  simp only [isBlank, inRanges, blankRanges, List.any_cons, List.any_nil, Bool.or_false,
    Bool.or_eq_false_iff, Bool.and_eq_false_iff, decide_eq_false_iff_not]
  omega

end Formulary.Text
