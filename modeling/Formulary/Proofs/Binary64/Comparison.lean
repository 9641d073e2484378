import Formulary.Binary64.Power
import Formulary.Proofs.Binary64.Exact

/-!
# Comparisons of doubles with zero

A comparison reads the fields of the bits, and so does the exact value of a double.  The two agree:
a double is less than zero if its sign bit is set and it is no zero, and the sign bit of a zero
shows only when it is copied.
-/

namespace Formulary.Binary64

open Float.Model (UnpackedFloat)
open Float.Model.UnpackedFloat (Sign unpackExponent unpackMantissa unpackSign)

/-! ## The fields of the bits -/

theorem unpackExponent_eq_iff (bits : BitVec 64) (field : BitVec 11) :
    @unpackExponent .binary64 bits = field ↔
      bits.toNat / 2 ^ 52 % 2 ^ 11 = field.toNat := by
  rw [← BitVec.toNat_inj, unpackExponent, BitVec.toNat_cast, BitVec.extractLsb_toNat,
    Nat.shiftRight_eq_div_pow]
  rfl

theorem unpackMantissa_eq_iff (bits : BitVec 64) (field : BitVec 52) :
    @unpackMantissa .binary64 bits = field ↔ bits.toNat % 2 ^ 52 = field.toNat := by
  rw [← BitVec.toNat_inj, unpackMantissa, BitVec.toNat_cast, BitVec.extractLsb_toNat]
  rfl

theorem ofBitVec_unpackSign (bits : BitVec 64) :
    Sign.ofBitVec (@unpackSign .binary64 bits) =
      if bits.toNat / 2 ^ 63 == 1 then .negative else .positive := by
  have hbound := bits.isLt
  have hsign : bits.toNat / 2 ^ 63 = 0 ∨ bits.toNat / 2 ^ 63 = 1 := by omega
  have hzero : @unpackSign .binary64 bits = 0#1 ↔ bits.toNat / 2 ^ 63 % 2 = 0 := by
    rw [← BitVec.toNat_inj]
    change (bits.extractLsb 63 63).toNat = _ ↔ _
    rw [BitVec.extractLsb_toNat, Nat.shiftRight_eq_div_pow]
    rfl
  simp only [Sign.ofBitVec, hzero]
  rcases hsign with hsign | hsign <;> rw [hsign] <;> rfl

/-! ## Comparisons -/

/-- How a value compares with zero, if at all. -/
def Exact.againstZero : Exact → Option Ordering
  | nan => none
  | infinite negative => some (if negative then .lt else .gt)
  | finite negative significand _ =>
    some (if significand = 0 then .eq else if negative then .lt else .gt)

theorem compare_zero (x : Float) (sign : Sign) :
    x.toModel.unpack.compare (.zero sign) = (exact x).againstZero := by
  have hexact : exact x =
      if x.toBits.toNat / 2 ^ 52 % 2 ^ 11 = 2047 then
        if x.toBits.toNat % 2 ^ 52 = 0 then .infinite (x.toBits.toNat / 2 ^ 63 == 1) else .nan
      else if x.toBits.toNat / 2 ^ 52 % 2 ^ 11 = 0 then
        .finite (x.toBits.toNat / 2 ^ 63 == 1) (x.toBits.toNat % 2 ^ 52) (-1074)
      else
        .finite (x.toBits.toNat / 2 ^ 63 == 1) (2 ^ 52 + x.toBits.toNat % 2 ^ 52)
          (((x.toBits.toNat / 2 ^ 52 % 2 ^ 11 : ℕ) : ℤ) - 1075) := rfl
  have hfull : @unpackExponent .binary64 x.toBits.toBitVec = -1#_ ↔
      x.toBits.toNat / 2 ^ 52 % 2 ^ 11 = 2047 := unpackExponent_eq_iff _ _
  have hempty : @unpackExponent .binary64 x.toBits.toBitVec = 0#_ ↔
      x.toBits.toNat / 2 ^ 52 % 2 ^ 11 = 0 := unpackExponent_eq_iff _ _
  have hfraction : @unpackMantissa .binary64 x.toBits.toBitVec = 0#_ ↔
      x.toBits.toNat % 2 ^ 52 = 0 := unpackMantissa_eq_iff _ _
  have hsign : Sign.ofBitVec (@unpackSign .binary64 x.toBits.toBitVec) =
      if x.toBits.toNat / 2 ^ 63 == 1 then .negative else .positive :=
    ofBitVec_unpackSign x.toBits.toBitVec
  generalize (x.toBits.toNat / 2 ^ 63 == 1) = negative at hexact hsign
  change (UnpackedFloat.unpack .binary64 x.toBits.toBitVec).compare _ = _
  delta UnpackedFloat.unpack
  dsimp only
  rw [hsign, hexact]
  -- The cases are those of the unpacking.
  by_cases hset : x.toBits.toNat / 2 ^ 52 % 2 ^ 11 = 2047
  · rw [if_pos (hfull.mpr hset), if_pos hset]
    by_cases hnone : x.toBits.toNat % 2 ^ 52 = 0
    · rw [if_pos (hfraction.mpr hnone), if_pos hnone]
      cases negative <;> rfl
    · rw [if_neg (mt hfraction.mp hnone), if_neg hnone]
      rfl
  · rw [if_neg (mt hfull.mp hset), if_neg hset]
    by_cases hclear : x.toBits.toNat / 2 ^ 52 % 2 ^ 11 = 0
    · rw [if_pos (hempty.mpr hclear), if_pos hclear]
      by_cases hnone : x.toBits.toNat % 2 ^ 52 = 0
      · rw [dif_pos (hfraction.mpr hnone), hnone]
        rfl
      · rw [dif_neg (mt hfraction.mp hnone), Exact.againstZero, if_neg hnone]
        cases negative <;> rfl
    · have hne : 2 ^ 52 + x.toBits.toNat % 2 ^ 52 ≠ 0 := by omega
      rw [if_neg (mt hempty.mp hclear), if_neg hclear, Exact.againstZero, if_neg hne]
      cases negative <;> rfl

theorem unpack_zero : (0.0 : Float).toModel.unpack = .zero .positive := by
  have hzero : (0.0 : Float) = .ofBits 0 := eq_of_toBits (by decide)
  rw [hzero]
  rfl

/-- A double is less than zero if its sign bit is set and it is no zero. -/
theorem lt_zero_iff (x : Float) :
    x < 0.0 ↔ ((exact x).isNegative && !(exact x).isZero) = true := by
  have hless : x < 0.0 ↔ (exact x).againstZero = some .lt := by
    change decide ((x.toModel.unpack.compare (0.0 : Float).toModel.unpack == some .lt) = true) =
      true ↔ _
    rw [unpack_zero, compare_zero, decide_eq_true_eq, beq_iff_eq]
  rw [hless]
  cases exact x with
  | nan => simp [Exact.againstZero, Exact.isNegative]
  | infinite negative =>
      cases negative <;> simp [Exact.againstZero, Exact.isNegative, Exact.isZero]
  | finite negative significand exponent =>
      cases significand <;> cases negative <;>
        simp [Exact.againstZero, Exact.isNegative, Exact.isZero]

theorem beq_zero_iff (x : Float) : (x == 0.0) = true ↔ (exact x).isZero = true := by
  have hequal : (x == 0.0) = true ↔ (exact x).againstZero = some .eq := by
    change (x.toModel.unpack.compare (0.0 : Float).toModel.unpack == some .eq) = true ↔ _
    rw [unpack_zero, compare_zero, beq_iff_eq]
  rw [hequal]
  cases exact x with
  | nan => simp [Exact.againstZero, Exact.isZero]
  | infinite negative => cases negative <;> simp [Exact.againstZero, Exact.isZero]
  | finite negative significand exponent =>
      cases significand <;> cases negative <;> simp [Exact.againstZero, Exact.isZero]

/-- One with the sign bit of a double is less than zero if that bit is set. -/
theorem copySign_one_lt_zero_iff (x : Float) :
    copySign 1.0 x < 0.0 ↔ (exact x).isNegative = true := by
  have hone : (exact 1.0).isNegative = false := by decide
  rw [copySign, hone]
  cases (exact x).isNegative <;> decide

end Formulary.Binary64
