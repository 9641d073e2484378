import Formulary.Binary64.Exact
import Mathlib.Algebra.Order.Field.Basic
import Mathlib.Algebra.Ring.Int.Parity
import Mathlib.Data.Rat.Floor
import Mathlib.Tactic.Ring

/-!
# What doubles denote

A double that is infinite or no number is known from what it denotes.  One that is finite denotes a
rational number.  Odd integers are told by this number: it is its own floor, and halving it leaves a
remainder.
-/

namespace Formulary.Binary64

open Float.Model.UnpackedFloat (packedNaN unpackExponent unpackMantissa)

variable {x y : Float} {negative : Bool}

/-! ## Infinities and what is no number -/

theorem eq_of_toBits (hbits : x.toBits = y.toBits) : x = y := by
  obtain ⟨model, _⟩ := x
  obtain ⟨other, _⟩ := y
  cases hbits
  rfl

theorem exact_infinity (negative : Bool) : exact (infinity negative) = .infinite negative := by
  cases negative <;> decide

/-- If a double is not finite, all bits of its exponent are set and its fraction says what it is. -/
theorem exact_of_not_isFinite (hexact : (exact x).isFinite = false) :
    x.toBits.toNat / 2 ^ 52 % 2 ^ 11 = 2047 ∧
      exact x = if x.toBits.toNat % 2 ^ 52 = 0 then .infinite (x.toBits.toNat / 2 ^ 63 == 1)
        else .nan := by
  by_cases hfield : x.toBits.toNat / 2 ^ 52 % 2 ^ 11 = 2047
  · exact ⟨hfield, if_pos hfield⟩
  · have hfinite : (exact x).isFinite = true := by
      simp only [exact]
      split
      · next hset => exact absurd hset hfield
      · split <;> rfl
    rw [hfinite] at hexact
    cases hexact

theorem eq_infinity_of_exact (hexact : exact x = .infinite negative) : x = infinity negative := by
  have hbound := x.toBits.toNat_lt
  obtain ⟨hfield, hvalue⟩ := exact_of_not_isFinite (by rw [hexact]; rfl)
  rw [hexact] at hvalue
  split at hvalue
  · next hfraction =>
      injection hvalue with hsign
      have hinfinity : (infinity negative).toBits.toNat =
          if negative then 0xfff0000000000000 else 0x7ff0000000000000 := by
        cases negative <;> decide
      apply eq_of_toBits
      apply UInt64.toNat_inj.mp
      rw [hinfinity]
      cases negative <;> simp at hsign ⊢ <;> omega
  · cases hvalue

/-- Only one sequence of bits that denotes no number is a double. -/
theorem eq_nan_of_exact (hexact : exact x = .nan) : x = nan := by
  obtain ⟨hfield, hvalue⟩ := exact_of_not_isFinite (by rw [hexact]; rfl)
  rw [hexact] at hvalue
  split at hvalue
  · cases hvalue
  · next hfraction =>
      have hbits : x.toModel.toBits.toBitVec = packedNaN .binary64 := by
        apply x.toModel.valid.eq_packedNaN
        · apply BitVec.eq_of_toNat_eq
          rw [unpackExponent, BitVec.toNat_cast, BitVec.extractLsb_toNat,
            Nat.shiftRight_eq_div_pow]
          exact hfield
        · intro hzero
          apply hfraction
          have hnat := congrArg BitVec.toNat hzero
          rwa [unpackMantissa, BitVec.toNat_cast, BitVec.extractLsb_toNat] at hnat
      apply eq_of_toBits
      apply UInt64.toBitVec_inj.mp
      exact hbits.trans (by decide)

namespace Exact

variable {value : Exact} {number : ℚ}

/-! ## Finite values -/

theorem signed_mul (negative : Bool) (magnitude factor : ℕ) :
    signed negative (magnitude * factor) = signed negative magnitude * factor := by
  cases negative <;> simp [signed]

theorem signed_eq_zero (negative : Bool) (magnitude : ℕ) :
    signed negative magnitude = 0 ↔ magnitude = 0 := by
  cases negative <;> simp [signed]

def value? : Exact → Option ℚ
  | finite negative significand exponent => some (signed negative significand * 2 ^ exponent)
  | _ => none

theorem isFinite_iff : value.isFinite = true ↔ ∃ number, value.value? = some number := by
  cases value <;> simp [isFinite, value?]

theorem exists_truncate? (hfinite : value.isFinite = true) :
    ∃ whole, value.truncate? = some whole := by
  cases value with
  | nan => cases hfinite
  | infinite negative => cases hfinite
  | finite negative significand exponent => exact ⟨_, rfl⟩

theorem isZero_iff : value.isZero = true ↔ value.value? = some 0 := by
  cases value with
  | nan => simp [isZero, value?]
  | infinite negative => simp [isZero, value?]
  | finite negative significand exponent =>
      have htwo : (2 : ℚ) ^ exponent ≠ 0 := zpow_ne_zero exponent two_ne_zero
      simp [isZero, value?, htwo, signed_eq_zero]

/-- The sign bit of a zero says nothing about the number. -/
theorem isNegative_and_not_isZero_iff (hnumber : value.value? = some number) :
    (value.isNegative && !value.isZero) = true ↔ number < 0 := by
  cases value with
  | nan => cases hnumber
  | infinite negative => cases hnumber
  | finite negative significand exponent =>
      cases hnumber
      have htwo : (0 : ℚ) < 2 ^ exponent := zpow_pos two_pos exponent
      cases negative <;>
        simp [isNegative, isZero, signed, htwo.not_gt, mul_neg_iff, Nat.pos_iff_ne_zero, htwo]

/-! ## Odd integers -/

theorem number?_eq_value? (value : Exact) : value.number? = value.value? := by
  cases value with
  | nan => rfl
  | infinite negative => rfl
  | finite negative significand exponent =>
      cases exponent with
      | ofNat places =>
          rw [number?, value?, Nat.pow_eq, signed_mul, Rat.mkRat_one, Int.ofNat_eq_natCast,
            zpow_natCast]
          push_cast
          rfl
      | negSucc places =>
          rw [number?, value?, Nat.pow_eq, Rat.mkRat_eq_div, zpow_negSucc, div_eq_mul_inv]
          push_cast
          rfl

theorem towardsZero_intCast (integer : ℤ) : towardsZero integer = integer := by
  rw [towardsZero, Rat.floor_intCast, Rat.ceil_intCast, ite_self]

theorem remainder_two_ne_zero_iff (integer : ℤ) : remainder integer 2 ≠ 0 ↔ Odd integer := by
  constructor
  · intro hremainder
    rw [← Int.not_even_iff_odd]
    rintro ⟨half, rfl⟩
    apply hremainder
    have hhalf : ((half + half : ℤ) : ℚ) / 2 = half := by
      push_cast
      ring
    rw [remainder, hhalf, towardsZero_intCast]
    push_cast
    ring
  · intro hodd hremainder
    have hdouble : integer = 2 * towardsZero (integer / 2) := by
      exact_mod_cast sub_eq_zero.mp hremainder
    rw [hdouble] at hodd
    exact Int.not_odd_iff_even.mpr (even_two_mul _) hodd

/-- The number is its own floor, and halving it leaves a remainder. -/
theorem isOddInteger_iff_floor :
    value.isOddInteger = true ↔
      ∃ number, value.value? = some number ∧ number = ⌊number⌋ ∧ remainder number 2 ≠ 0 := by
  rw [isOddInteger, number?_eq_value?]
  cases hnumber : value.value? with
  | none => simp
  | some number =>
      have hfloor : number.floor = ⌊number⌋ := rfl
      simp [hfloor]

/-- The number is an odd integer. -/
theorem isOddInteger_iff :
    value.isOddInteger = true ↔ ∃ integer : ℤ, Odd integer ∧ value.value? = some ↑integer := by
  rw [isOddInteger_iff_floor]
  constructor
  · rintro ⟨number, hvalue, hfloor, hremainder⟩
    rw [hfloor] at hvalue hremainder
    exact ⟨⌊number⌋, (remainder_two_ne_zero_iff _).mp hremainder, hvalue⟩
  · rintro ⟨integer, hodd, hvalue⟩
    refine ⟨integer, hvalue, ?_, (remainder_two_ne_zero_iff integer).mpr hodd⟩
    rw [Int.floor_intCast]

end Exact

end Formulary.Binary64
