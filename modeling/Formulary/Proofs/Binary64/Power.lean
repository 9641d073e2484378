import Formulary.Proofs.Binary64.Comparison

/-!
# Powers recovered from refusals

A checked power refuses where finite numbers have no finite power.  From the refusal, the base and
the exponent alone, the value that was held back is recovered: a power that is too great has the
sign of the base if the exponent is odd, and so has a pole, while any other power that was refused
is no number.
-/

namespace Formulary.Binary64

variable {power : Float → Float → Float} {checked : Float → Float → Except PowerFault Float}

/-! ## Powers and refusals -/

def IsInfinite (x : Float) : Prop :=
  ∃ negative, exact x = .infinite negative

/-- What infinite powers of finite numbers are like: negative if the sign bit of the base is set and
the exponent is an odd integer, and else positive.  A power of zero is infinite for the negative
exponents. -/
structure PowerLaws (power : Float → Float → Float) : Prop where
  negative_iff : ∀ {base exponent : Float} {negative : Bool},
    (exact base).isFinite = true → (exact exponent).isFinite = true →
    exact (power base exponent) = .infinite negative →
    (negative = true ↔ (exact base).isNegative = true ∧
      ∃ integer : ℤ, Odd integer ∧ (exact exponent).value? = some ↑integer)
  pole_iff : ∀ {base exponent : Float} {number : ℚ},
    (exact base).value? = some 0 → (exact exponent).value? = some number →
    (IsInfinite (power base exponent) ↔ number < 0)

/-- A checked power is the power, except where it refuses finite arguments: there is an overflow if
the base is not zero and the power is infinite, and a fault of the domain if the power is no number
or zero has an infinite power. -/
structure Refuses (power : Float → Float → Float)
    (checked : Float → Float → Except PowerFault Float) : Prop where
  overflow_iff : ∀ base exponent, checked base exponent = .error .overflow ↔
    ((exact base).isFinite = true ∧ (exact exponent).isFinite = true) ∧
      (exact base).value? ≠ some 0 ∧ IsInfinite (power base exponent)
  domain_iff : ∀ base exponent, checked base exponent = .error .domain ↔
    ((exact base).isFinite = true ∧ (exact exponent).isFinite = true) ∧
      (exact (power base exponent) = .nan ∨
        (exact base).value? = some 0 ∧ IsInfinite (power base exponent))
  eq_of_ok : ∀ {base exponent result}, checked base exponent = .ok result →
    result = power base exponent

theorem refuses_checkedPower (power : Float → Float → Float) :
    Refuses power (checkedPower power) where
  overflow_iff base exponent := by
    simp only [checkedPower, IsInfinite, ne_eq, ← Exact.isZero_iff, ← Bool.and_eq_true]
    split
    · next hfinite =>
        cases hresult : exact (power base exponent) <;> cases hzero : (exact base).isZero <;>
          simp [hfinite]
    · next hfinite => simp [hfinite]
  domain_iff base exponent := by
    simp only [checkedPower, IsInfinite, ← Exact.isZero_iff, ← Bool.and_eq_true]
    split
    · next hfinite =>
        cases hresult : exact (power base exponent) <;> cases hzero : (exact base).isZero <;>
          simp [hfinite]
    · next hfinite => simp [hfinite]
  eq_of_ok := by
    intro base exponent result hok
    simp only [checkedPower] at hok
    split at hok
    · split at hok <;> cases hok
      rfl
    · cases hok
      rfl

/-- The infinity with the sign of an infinite power. -/
def infinitePower (base exponent : Float) : Float :=
  infinity ((exact base).isNegative && (exact exponent).isOddInteger)

/-! ## A power with these laws -/

/-- A power that is coarse between the infinities.  Poles are infinite, and so are the powers of
numbers from eight on, of either sign, from the 342nd on, which are beyond `2 ^ 1024`.  Roots of
negative numbers are no numbers, and all other powers are one. -/
def coarsePower (base exponent : Float) : Float :=
  match (exact base).truncate?, (exact exponent).truncate? with
  | some whole, some times =>
    if (exact base).isZero then
      if (exact exponent).isNegative && !(exact exponent).isZero then infinitePower base exponent
      else 1.0
    else if (exact base).isNegative && !(exact exponent).isInteger then nan
    else if 8 ≤ whole.natAbs ∧ 342 ≤ times then infinitePower base exponent
    else 1.0
  | _, _ => nan

theorem isInfinite_infinitePower (base exponent : Float) :
    IsInfinite (infinitePower base exponent) :=
  ⟨_, exact_infinity _⟩

theorem not_isInfinite_one : ¬ IsInfinite 1.0 := by
  rintro ⟨negative, hnegative⟩
  revert hnegative
  cases negative <;> decide

theorem not_isInfinite_nan : ¬ IsInfinite nan := by
  rintro ⟨negative, hnegative⟩
  revert hnegative
  cases negative <;> decide

theorem coarsePower_eq_infinitePower {base exponent : Float}
    (hinfinite : IsInfinite (coarsePower base exponent)) :
    coarsePower base exponent = infinitePower base exponent := by
  revert hinfinite
  rw [coarsePower]
  split
  · split_ifs <;> simp [not_isInfinite_one, not_isInfinite_nan]
  · simp [not_isInfinite_nan]

theorem coarsePower_of_isZero {base exponent : Float} (hzero : (exact base).isZero = true)
    (hfinite : (exact exponent).isFinite = true) :
    coarsePower base exponent =
      if (exact exponent).isNegative && !(exact exponent).isZero then infinitePower base exponent
      else 1.0 := by
  have hnumber := Exact.isZero_iff.mp hzero
  obtain ⟨whole, hwhole⟩ := Exact.exists_truncate? (Exact.isFinite_iff.mpr ⟨0, hnumber⟩)
  obtain ⟨times, htimes⟩ := Exact.exists_truncate? hfinite
  simp only [coarsePower, hwhole, htimes, hzero, if_true]

theorem powerLaws_coarsePower : PowerLaws coarsePower where
  negative_iff := by
    intro base exponent negative _ _ hinfinite
    have heq := coarsePower_eq_infinitePower ⟨negative, hinfinite⟩
    rw [heq, infinitePower, exact_infinity] at hinfinite
    injection hinfinite with hsign
    rw [← hsign, Bool.and_eq_true, Exact.isOddInteger_iff]
  pole_iff := by
    intro base exponent number hbase hexponent
    have hzero := Exact.isZero_iff.mpr hbase
    have hfinite := Exact.isFinite_iff.mpr ⟨number, hexponent⟩
    rw [← Exact.isNegative_and_not_isZero_iff hexponent, coarsePower_of_isZero hzero hfinite]
    split
    · next hnegative => simp [isInfinite_infinitePower, hnegative]
    · next hnegative => simp [not_isInfinite_one, hnegative]

/-! ## Recovery -/

/-- The infinity is the one that was held back. -/
theorem infinitePower_eq {base exponent : Float} (hlaws : PowerLaws power)
    (hbase : (exact base).isFinite = true) (hexponent : (exact exponent).isFinite = true)
    (hinfinite : IsInfinite (power base exponent)) :
    infinitePower base exponent = power base exponent := by
  obtain ⟨negative, hnegative⟩ := hinfinite
  have hsign : ((exact base).isNegative && (exact exponent).isOddInteger) = negative := by
    rw [Bool.eq_iff_iff, Bool.and_eq_true, Exact.isOddInteger_iff]
    exact (hlaws.negative_iff hbase hexponent hnegative).symm
  rw [infinitePower, hsign, eq_infinity_of_exact hnegative]

theorem isPole_iff {base exponent : Float} (hlaws : PowerLaws power)
    (hexponent : (exact exponent).isFinite = true) :
    (base == 0.0 && exponent < 0.0) = true ↔
      (exact base).value? = some 0 ∧ IsInfinite (power base exponent) := by
  obtain ⟨number, hnumber⟩ := Exact.isFinite_iff.mp hexponent
  rw [Bool.and_eq_true, beq_zero_iff, Exact.isZero_iff, decide_eq_true_eq, lt_zero_iff,
    Exact.isNegative_and_not_isZero_iff hnumber]
  constructor
  · rintro ⟨hzero, hnegative⟩
    exact ⟨hzero, (hlaws.pole_iff hzero hnumber).mpr hnegative⟩
  · rintro ⟨hzero, hinfinite⟩
    exact ⟨hzero, (hlaws.pole_iff hzero hnumber).mp hinfinite⟩

/-- A base that is not zero is less than zero if its sign bit is set. -/
theorem infinity_of_lt_zero {base : Float} (hbase : (exact base).value? ≠ some 0)
    (exponent : Float) :
    infinity (base < 0.0 && (exact exponent).isOddInteger) = infinitePower base exponent := by
  have hnonzero : (exact base).isZero = false := by
    rwa [Ne, ← Exact.isZero_iff, Bool.not_eq_true] at hbase
  have hsign : decide (base < 0.0) = (exact base).isNegative := by
    rw [Bool.eq_iff_iff, decide_eq_true_eq, lt_zero_iff, hnonzero, Bool.not_false, Bool.and_true]
  rw [hsign, infinitePower]

theorem infinity_of_copySign (base exponent : Float) :
    infinity (copySign 1.0 base < 0.0 && (exact exponent).isOddInteger) =
      infinitePower base exponent := by
  have hsign : decide (copySign 1.0 base < 0.0) = (exact base).isNegative := by
    rw [Bool.eq_iff_iff, decide_eq_true_eq, copySign_one_lt_zero_iff]
  rw [hsign, infinitePower]

theorem recoverPower_eq (hlaws : PowerLaws power) (hrefuses : Refuses power checked)
    (base exponent : Float) : recoverPower checked base exponent = power base exponent := by
  rw [recoverPower]
  split
  · next result hchecked => exact hrefuses.eq_of_ok hchecked
  · next hchecked =>
      obtain ⟨⟨hbase, hexponent⟩, hnonzero, hinfinite⟩ := (hrefuses.overflow_iff _ _).mp hchecked
      rw [infinity_of_lt_zero hnonzero]
      exact infinitePower_eq hlaws hbase hexponent hinfinite
  · next hchecked =>
      obtain ⟨⟨hbase, hexponent⟩, hcase⟩ := (hrefuses.domain_iff _ _).mp hchecked
      split
      · next hpole =>
          have hinfinite := ((isPole_iff hlaws hexponent).mp hpole).2
          rw [infinity_of_copySign]
          exact infinitePower_eq hlaws hbase hexponent hinfinite
      · next hpole =>
          rw [isPole_iff hlaws hexponent] at hpole
          exact (eq_nan_of_exact (hcase.resolve_right hpole)).symm

/-- The power of the evaluator is the unchecked one. -/
theorem power_eq_pow (hlaws : PowerLaws Float.pow) (base exponent : Float) :
    Binary64.power base exponent = Float.pow base exponent :=
  recoverPower_eq hlaws (refuses_checkedPower Float.pow) base exponent

/-- All doubles have the power that the unchecked function gives them, whatever the checked one
refuses.  Odd integers, on which the sign depends, are told from all other doubles: no others are
their own floor and leave a remainder when they are halved. -/
theorem recoverPower_recovers (hlaws : PowerLaws power) (hrefuses : Refuses power checked) :
    (∀ base exponent, recoverPower checked base exponent = power base exponent) ∧
      ∀ x : Float, ((exact x).isOddInteger = true ↔
          ∃ integer : ℤ, Odd integer ∧ (exact x).value? = some ↑integer) ∧
        ((exact x).isOddInteger = true ↔ ∃ number, (exact x).value? = some number ∧
          number = ⌊number⌋ ∧ Exact.remainder number 2 ≠ 0) :=
  ⟨recoverPower_eq hlaws hrefuses, fun _ => ⟨Exact.isOddInteger_iff, Exact.isOddInteger_iff_floor⟩⟩

/-- Too great a power, a pole and an even root, all of them of numbers whose sign bit is set. -/
theorem recoverPower_recovers_coarsePower :
    (checkedPower coarsePower (-10.0) 401.0 = .error .overflow ∧
        recoverPower (checkedPower coarsePower) (-10.0) 401.0 = infinity true) ∧
      (checkedPower coarsePower (-0.0) (-1.0) = .error .domain ∧
        recoverPower (checkedPower coarsePower) (-0.0) (-1.0) = infinity true) ∧
      (checkedPower coarsePower (-8.0) 0.5 = .error .domain ∧
        recoverPower (checkedPower coarsePower) (-8.0) 0.5 = nan) := by
  obtain ⟨hrecovers, -⟩ :=
    recoverPower_recovers powerLaws_coarsePower (refuses_checkedPower coarsePower)
  simp only [hrecovers]
  decide +kernel

end Formulary.Binary64
