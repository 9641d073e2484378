import Formulary.Proofs.Canonical
import Formulary.Proofs.Cutting.Character
import Formulary.Proofs.Equality
import Mathlib.Order.Bounds.Defs
import Mathlib.Order.MinMax

/-!
# Height and nesting

In a canonical text each operator has a pair of parentheses of its own around its operands, and
symbols and signs have none.  So the parentheses are nested as deep as the operators are, and the
height of the tree is one more.
-/

namespace Formulary

/-! ## Parentheses that are open in a text -/

namespace Text

def opening (c : Char) : Int :=
  if c = '(' then 1 else if c = ')' then -1 else 0

/-- How many parentheses are open behind a text. -/
def level : Text → Int
  | [] => 0
  | c :: rest => opening c + level rest

/-- How many parentheses are open behind the fronts of a text. -/
def levels (text : Text) : Set Int :=
  { number | ∃ front, front <+: text ∧ level front = number }

/-- The greatest number of parentheses that are open anywhere in a text. -/
def deepest : Text → Int
  | [] => 0
  | c :: rest => max 0 (opening c + deepest rest)

@[simp]
theorem level_nil : level [] = 0 := rfl

theorem level_cons (c : Char) (rest : Text) : level (c :: rest) = opening c + level rest := rfl

theorem level_append (front rest : Text) : level (front ++ rest) = level front + level rest := by
  induction front with
  | nil => exact (Int.zero_add _).symm
  | cons c front ih => rw [List.cons_append, level_cons, level_cons, ih, Int.add_assoc]

theorem deepest_nonneg (text : Text) : 0 ≤ deepest text := by
  cases text with
  | nil => exact Int.le_refl 0
  | cons c rest => exact le_max_left _ _

theorem deepest_append (front rest : Text) :
    deepest (front ++ rest) = max (deepest front) (level front + deepest rest) := by
  induction front with
  | nil =>
      have hrest := deepest_nonneg rest
      simpa [deepest] using hrest
  | cons c front ih =>
      simp only [List.cons_append, deepest, ih, level_cons]
      omega

/-- A front is empty, or it has the first character and a front of the rest. -/
theorem isGreatest_deepest (text : Text) : IsGreatest (levels text) (deepest text) := by
  induction text with
  | nil =>
      refine ⟨⟨[], List.prefix_rfl, rfl⟩, ?_⟩
      rintro number ⟨front, hfront, rfl⟩
      rw [List.prefix_nil.mp hfront]
      exact Int.le_refl 0
  | cons c rest ih =>
      obtain ⟨⟨inner, hinner, hlevel⟩, hbound⟩ := ih
      constructor
      · rcases max_choice 0 (opening c + deepest rest) with hmax | hmax
        · exact ⟨[], List.nil_prefix, by rw [deepest, hmax, level_nil]⟩
        · refine ⟨c :: inner, List.cons_prefix_cons.mpr ⟨rfl, hinner⟩, ?_⟩
          rw [deepest, hmax, level_cons, hlevel]
      · rintro number ⟨front, hfront, rfl⟩
        rcases List.prefix_cons_iff.mp hfront with rfl | ⟨tail, rfl, htail⟩
        · exact deepest_nonneg (c :: rest)
        · have hle : level tail ≤ deepest rest := hbound ⟨tail, htail, rfl⟩
          rw [level_cons, deepest]
          omega

/-- Text without parentheses neither opens nor closes anything. -/
theorem flat_of_opening_eq_zero {text : Text} (hflat : ∀ c ∈ text, opening c = 0) :
    level text = 0 ∧ deepest text = 0 := by
  induction text with
  | nil => exact ⟨rfl, rfl⟩
  | cons c rest ih =>
      obtain ⟨hfirst, hrest⟩ := List.forall_mem_cons.mp hflat
      obtain ⟨hlevel, hdeepest⟩ := ih hrest
      simp [level_cons, deepest, hfirst, hlevel, hdeepest]

end Text

/-! ## Parentheses of a tree -/

namespace Expr

open Text (opening level level_cons level_append deepest deepest_append)

theorem isMark_eq_false {c : Char} (hsymbol : c.isDigit ∨ c.isAlpha ∨ c = '.') :
    isMark c = false := by
  rw [Bool.eq_false_iff]
  intro hmark
  simp only [isMark, Token.isOperatorSign, Bool.or_eq_true, beq_iff_eq] at hmark
  rcases hmark with (rfl | rfl) | (((rfl | rfl) | rfl) | rfl) | rfl <;> revert hsymbol <;> decide

/-- Numerals and names are free of marks. -/
theorem WellFormed.unmarked {tree : Expr} (hwellFormed : tree.WellFormed) : tree.Unmarked := by
  induction tree with
  | operand symbol =>
      intro c hc
      apply isMark_eq_false
      rcases hwellFormed with hnumeral | hname
      · rcases Token.IsNumeral.isDigit_of_mem hnumeral hc with hdigit | hpoint
        · exact .inl hdigit
        · exact .inr (.inr hpoint)
      · exact .inr (.inl (hname.2 c hc))
  | operator sign left right ihleft ihright =>
      obtain ⟨hsign, hleft, hright⟩ := hwellFormed
      exact ⟨hsign, ihleft hleft, ihright hright⟩

theorem flat_symbol {symbol : Text} (hsymbol : ∀ c ∈ symbol, isMark c = false) :
    level symbol = 0 ∧ deepest symbol = 0 := by
  apply Text.flat_of_opening_eq_zero
  intro c hc
  have hmark := hsymbol c hc
  simp only [isMark, Bool.or_eq_false_iff, beq_eq_false_iff_ne] at hmark
  rw [opening, if_neg hmark.1.1, if_neg hmark.1.2]

theorem flat_sign {sign : Text} (hsign : sign ∈ Grammar.operatorSigns) :
    level sign = 0 ∧ deepest sign = 0 := by
  simp only [Grammar.operatorSigns, List.mem_cons, List.not_mem_nil, or_false] at hsign
  rcases hsign with rfl | rfl | rfl | rfl | rfl <;> decide

/-- The canonical text closes what it opens, and nests its parentheses one less deep than the tree
is high: those of a node lie around those of its operands, which come one after the other. -/
theorem nesting_bracketed {tree : Expr} (hunmarked : tree.Unmarked) :
    level tree.bracketed = 0 ∧ deepest tree.bracketed + 1 = tree.height := by
  induction tree with
  | operand symbol =>
      obtain ⟨hlevel, hdeepest⟩ := flat_symbol hunmarked
      simp [bracketed, height, hlevel, hdeepest]
  | operator sign left right ihleft ihright =>
      obtain ⟨hsign, hleft, hright⟩ := hunmarked
      obtain ⟨hlevel, hdeepest⟩ := flat_sign hsign
      obtain ⟨hlevelLeft, hdeepestLeft⟩ := ihleft hleft
      obtain ⟨hlevelRight, hdeepestRight⟩ := ihright hright
      have hopener : opening '(' = 1 := rfl
      have hcloser : opening ')' = -1 := rfl
      constructor
      · simp only [bracketed, level_cons, level_append, Text.level_nil]
        omega
      · have hleast := Text.deepest_nonneg left.bracketed
        simp only [bracketed, deepest, deepest_append, level_append, height]
        rw [hopener, hcloser]
        omega

/-- The height is one more than the number of parentheses that are open at once. -/
theorem isGreatest_height {tree : Expr} (hunmarked : tree.Unmarked) :
    IsGreatest (Text.levels tree.bracketed) (tree.height - 1) := by
  have hgreatest := Text.isGreatest_deepest tree.bracketed
  rwa [← (nesting_bracketed hunmarked).2, Int.add_sub_cancel]

end Expr

end Formulary
