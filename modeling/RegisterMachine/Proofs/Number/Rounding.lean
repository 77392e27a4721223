/-
This file proves that rounding keeps each number that can be stored.
Only the value counts, so it may be given with any significand and exponent.
-/

import RegisterMachine.Proofs.Number.Stored

namespace RegisterMachine.Number
open Float.Model Float.Model.UnpackedFloat

theorem log2_mul_two_pow {number : Nat} (nonzero : number ≠ 0) (power : Nat) :
    (number * 2 ^ power).log2 = number.log2 + power := by
  induction power with
  | zero => rw [Nat.pow_zero, Nat.mul_one, Nat.add_zero]
  | succ power ih =>
      have inner : number * 2 ^ power ≠ 0 :=
        Nat.mul_ne_zero nonzero (Nat.ne_of_gt (Nat.two_pow_pos power))
      rw [Nat.pow_succ, ← Nat.mul_assoc, Nat.mul_comm _ 2, Nat.log2_two_mul inner, ih]
      rfl

/-- Doubling a significand makes up for a smaller exponent. -/
theorem totalExponent_mul_two_pow {significand : Nat} (nonzero : significand ≠ 0)
    (exponent : Int) (power : Nat) :
    totalExponent (significand * 2 ^ power) (exponent - power) =
      totalExponent significand exponent := by
  rw [totalExponent, totalExponent, log2_mul_two_pow nonzero]
  omega

/-- Shifting out zeros loses nothing. -/
theorem shiftRight_mul_two_pow (significand power : Nat) :
    (⟨significand * 2 ^ power, false, false⟩ : ExtendedMantissa) >>> power =
      ⟨significand, false, false⟩ := by
  induction power generalizing significand with
  | zero =>
      rw [Nat.pow_zero, Nat.mul_one]
      rfl
  | succ power ih =>
      have doubled : significand * 2 ^ (power + 1) = 2 * significand * 2 ^ power := by
        rw [Nat.pow_succ]
        ring
      have shifted := ih (2 * significand)
      change Nat.repeat ExtendedMantissa.shiftRightOne power
        ⟨2 * significand * 2 ^ power, false, false⟩ = _ at shifted
      change ExtendedMantissa.shiftRightOne (Nat.repeat ExtendedMantissa.shiftRightOne power
        ⟨significand * 2 ^ (power + 1), false, false⟩) = _
      rw [doubled, shifted, ExtendedMantissa.shiftRightOne]
      simp

theorem Canonical.shiftToTargetExponent {significand : Nat} {exponent : Int}
    (canonical : Canonical significand exponent) (power : Nat) :
    UnpackedFloat.shiftToTargetExponent Format.binary64 (significand * 2 ^ power)
      (exponent - power) .exact = (⟨significand, false, false⟩, exponent) := by
  have amount : (exponent - (exponent - power)).toNat = power := by omega
  rw [UnpackedFloat.shiftToTargetExponent,
    totalExponent_mul_two_pow (Nat.ne_of_gt canonical.positive), canonical.target]
  simp only [shiftToExponent, amount, ExtendedMantissa.ofMantissaAndAccuracy,
    shiftRight_mul_two_pow, Prod.mk.injEq, true_and]
  omega

/-- Rounding undoes any shift of a canonical significand. -/
theorem Canonical.roundWithAccuracy_shifted {significand : Nat} {exponent : Int}
    (canonical : Canonical significand exponent) (sign : Sign) (power : Nat) :
    roundWithAccuracy Format.binary64 sign (significand * 2 ^ power) (exponent - power) .exact =
      .finite sign significand exponent canonical.positive := by
  have first := canonical.shiftToTargetExponent power
  have second := canonical.shiftToTargetExponent 0
  rw [Nat.pow_zero, Nat.mul_one, Int.natCast_zero, Int.sub_zero] at second
  have kept : (⟨significand, false, false⟩ : ExtendedMantissa).roundedMantissa = significand := rfl
  simp only [roundWithAccuracy, first, kept, second,
    dif_neg (Nat.ne_of_gt canonical.positive)]

/-- Equal values differ by a shift of their significands. -/
theorem eq_mul_two_pow_of_value_eq {first second : Nat} {small large : Int}
    (same : (first : ℚ) * 2 ^ small = second * 2 ^ large) (ordered : small ≤ large) :
    first = second * 2 ^ (large - small).toNat := by
  obtain ⟨power, shifted⟩ : ∃ power : Nat, large = small + power :=
    ⟨(large - small).toNat, by omega⟩
  subst shifted
  have amount : (small + power - small).toNat = power := by omega
  rw [zpow_add₀ two_ne_zero, zpow_natCast] at same
  have scale : (2 : ℚ) ^ small ≠ 0 := zpow_ne_zero small two_ne_zero
  have exact : (first : ℚ) = second * 2 ^ power := by
    apply mul_right_cancel₀ scale
    rw [same]
    ring
  rw [amount]
  exact_mod_cast exact

/-- A product is rounded from a significand that is at least as fine as the result's. -/
theorem Canonical.roundWithAccuracy_of_value_eq {significand : Nat} {exponent : Int}
    (canonical : Canonical significand exponent) (sign : Sign) {fine : Nat} {low : Int}
    (same : (fine : ℚ) * 2 ^ low = significand * 2 ^ exponent) (ordered : low ≤ exponent) :
    roundWithAccuracy Format.binary64 sign fine low .exact =
      .finite sign significand exponent canonical.positive := by
  have shifted := canonical.roundWithAccuracy_shifted sign (exponent - low).toNat
  have lowered : exponent - ((exponent - low).toNat : Int) = low := by omega
  rwa [← eq_mul_two_pow_of_value_eq same ordered, lowered] at shifted

/-- Rounding finds the canonical form of any number that has one. -/
theorem Canonical.round_of_value_eq {significand : Nat} {exponent : Int}
    (canonical : Canonical significand exponent) (sign : Sign) {given : Nat} {power : Int}
    (same : (given : ℚ) * 2 ^ power = significand * 2 ^ exponent) :
    round Format.binary64 sign given power =
      .finite sign significand exponent canonical.positive := by
  have nonzero : significand ≠ 0 := Nat.ne_of_gt canonical.positive
  rcases le_total power exponent with low | high
  · have shifted := eq_mul_two_pow_of_value_eq same low
    have lowered : exponent - ((exponent - power).toNat : Int) = power := by omega
    have total := totalExponent_mul_two_pow nonzero exponent (exponent - power).toNat
    rw [← shifted, lowered] at total
    have amount : (power - exponent).toNat = 0 := by omega
    simp only [UnpackedFloat.round, total, canonical.target, decreaseExponent, amount,
      Nat.shiftLeft_zero, Int.natCast_zero, Int.sub_zero]
    exact canonical.roundWithAccuracy_of_value_eq sign same low
  · have shifted := eq_mul_two_pow_of_value_eq same.symm high
    have givenNonzero : given ≠ 0 := by
      rintro rfl
      rw [Nat.zero_mul] at shifted
      exact nonzero shifted
    have lowered : power - ((power - exponent).toNat : Int) = exponent := by omega
    have total := totalExponent_mul_two_pow givenNonzero power (power - exponent).toNat
    rw [← shifted, lowered] at total
    simp only [UnpackedFloat.round, ← total, canonical.target, decreaseExponent,
      Nat.shiftLeft_eq, ← shifted, lowered]
    exact canonical.roundWithAccuracy_of_value_eq sign rfl (le_refl exponent)

end RegisterMachine.Number
