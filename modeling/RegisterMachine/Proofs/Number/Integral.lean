/-
This file proves that binary64 arithmetic is exact on integers up to two to the fifty-third.
A number denotes an integer when that is its value, and both zeros denote zero.
-/

import RegisterMachine.Proofs.Number.Rounding

namespace RegisterMachine.Number
open Float.Model Float.Model.UnpackedFloat

/-- The value of a finite number is exact. -/
def Decoded.value? : Decoded → Option ℚ
  | .finite negative significand exponent =>
      some ((if negative then -1 else 1) * significand * 2 ^ ((exponent : Int) - 1074))
  | _ => none

/-- A number denotes an integer if the integer is its value. -/
def Denotes (value : Float) (integer : Int) : Prop :=
  (decode value).value? = some (integer : ℚ)

/-- Every integer within the limit is the value of some number. -/
def limit : Nat :=
  2 ^ 53

/-- This relation says what it means for the operands of the operations to have an integer value. -/
def Holds : UnpackedFloat → Int → Prop
  | .zero _, integer => integer = 0
  | .finite sign significand exponent _, integer =>
      Canonical significand exponent ∧
        ((sign.apply significand : Int) : ℚ) * 2 ^ exponent = integer
  | _, _ => False

theorem apply_signOf (negative : Bool) (significand : Nat) :
    (((signOf negative).apply significand : Int) : ℚ) =
      (if negative then -1 else 1) * significand := by
  cases negative <;> simp [signOf, Sign.apply]

theorem denotes_iff_holds (value : Float) (integer : Int) :
    Denotes value integer ↔ Holds value.toModel.unpack integer := by
  rw [unpack_eq_unpacked, Denotes]
  cases found : decode value with
  | notNumber => simp [Decoded.value?, Decoded.unpacked, Holds]
  | infinite negative => simp [Decoded.value?, Decoded.unpacked, Holds]
  | finite negative significand exponent =>
      rcases Nat.eq_zero_or_pos significand with zero | positive
      · subst zero
        rw [Decoded.unpacked_zero]
        simp only [Decoded.value?, Holds, Nat.cast_zero, mul_zero, zero_mul, Option.some.injEq]
        exact ⟨fun same => by exact_mod_cast same.symm, fun same => by rw [same, Int.cast_zero]⟩
      · rw [Decoded.unpacked_of_pos positive]
        simp only [Decoded.value?, Holds, Option.some.injEq, apply_signOf]
        exact ⟨fun same => ⟨canonical_of_decodeBits found positive, same⟩, fun holds => holds.2⟩

/-- A zero denotes zero, whatever its sign is. -/
theorem denotes_zero {value : Float} {negative : Bool} {exponent : Nat}
    (found : decode value = .finite negative 0 exponent) : Denotes value 0 := by
  simp [Denotes, found, Decoded.value?]

/-- What holds an integer before it is stored holds it afterwards. -/
theorem unpack_pack_of_holds {unpacked : UnpackedFloat} {integer : Int}
    (holds : Holds unpacked integer) :
    (Float.Model.pack unpacked).unpack = unpacked := by
  change UnpackedFloat.unpack Format.binary64 (UnpackedFloat.pack Format.binary64 unpacked) =
    unpacked
  cases unpacked with
  | notANumber => cases holds
  | infinity sign => cases holds
  | zero sign => exact unpack_packedZero
  | finite sign significand exponent positive =>
      obtain ⟨negative, rfl⟩ := exists_signOf sign
      exact holds.1.unpack_pack negative

theorem denotes_pack {unpacked : UnpackedFloat} {integer : Int}
    (holds : Holds unpacked integer) :
    Denotes (Float.ofModel (Float.Model.pack unpacked)) integer := by
  rw [denotes_iff_holds, unpack_pack_of_holds holds]
  exact holds

/-- Each natural number within the limit has a canonical form. -/
theorem exists_canonical {magnitude : Nat} (positive : 0 < magnitude)
    (within : magnitude ≤ limit) :
    ∃ significand exponent, Canonical significand exponent ∧
      (significand : ℚ) * 2 ^ exponent = magnitude := by
  have nonzero : magnitude ≠ 0 := Nat.ne_of_gt positive
  rcases Nat.lt_or_eq_of_le within with below | equal
  · have small : magnitude.log2 < 53 := (Nat.log2_lt nonzero).mpr below
    obtain ⟨gap, whole⟩ : ∃ gap, magnitude.log2 + gap = 52 :=
      ⟨52 - magnitude.log2, by omega⟩
    have lower : 2 ^ magnitude.log2 ≤ magnitude := Nat.log2_self_le nonzero
    have upper : magnitude < 2 ^ (magnitude.log2 + 1) := Nat.lt_log2_self
    refine ⟨magnitude * 2 ^ gap, -(gap : Int), ⟨?_, ?_, .inl ?_, by omega, by omega⟩, ?_⟩
    · exact Nat.mul_pos positive (Nat.two_pow_pos gap)
    · calc magnitude * 2 ^ gap
          < 2 ^ (magnitude.log2 + 1) * 2 ^ gap :=
            Nat.mul_lt_mul_of_pos_right upper (Nat.two_pow_pos gap)
        _ = 2 ^ 53 := by
            rw [← Nat.pow_add]
            congr 1
            omega
    · calc 2 ^ 52 = 2 ^ magnitude.log2 * 2 ^ gap := by rw [← Nat.pow_add, whole]
        _ ≤ magnitude * 2 ^ gap := Nat.mul_le_mul_right _ lower
    · push_cast
      rw [mul_assoc, ← zpow_natCast, ← zpow_add₀ two_ne_zero]
      simp
  · subst equal
    exact ⟨2 ^ 52, 1, ⟨by decide, by decide, .inl (by decide), by decide, by decide⟩,
      by norm_num [limit]⟩

theorem holds_finite {significand magnitude : Nat} {exponent : Int}
    (canonical : Canonical significand exponent)
    (value : (significand : ℚ) * 2 ^ exponent = magnitude) (sign : Sign) :
    Holds (.finite sign significand exponent canonical.positive) (sign.apply magnitude) := by
  refine ⟨canonical, ?_⟩
  cases sign
  · change ((-(significand : Int) : Int) : ℚ) * 2 ^ exponent = ((-(magnitude : Int) : Int) : ℚ)
    push_cast
    rw [neg_mul, value]
  · exact_mod_cast value

/-- A rounded integer is still that integer. -/
theorem holds_round {given : Nat} {power : Int} {magnitude : Nat}
    (same : (given : ℚ) * 2 ^ power = magnitude) (positive : 0 < magnitude)
    (within : magnitude ≤ limit) (sign : Sign) :
    Holds (round Format.binary64 sign given power) (sign.apply magnitude) := by
  obtain ⟨significand, exponent, canonical, value⟩ := exists_canonical positive within
  rw [canonical.round_of_value_eq sign (same.trans value.symm)]
  exact holds_finite canonical value sign

/-- A significand with digits to spare is rounded without being aligned first. -/
theorem holds_roundWithAccuracy {given : Nat} {power : Int} {magnitude : Nat}
    (same : (given : ℚ) * 2 ^ power = magnitude) (positive : 0 < magnitude)
    (within : magnitude ≤ limit) (wide : 2 ^ 53 ≤ given) (sign : Sign) :
    Holds (roundWithAccuracy Format.binary64 sign given power .exact) (sign.apply magnitude) := by
  obtain ⟨significand, exponent, canonical, value⟩ := exists_canonical positive within
  have ordered : power ≤ exponent := by
    by_contra larger
    have shifted := eq_mul_two_pow_of_value_eq (value.trans same.symm) (by omega)
    have factor := Nat.le_mul_of_pos_right given (Nat.two_pow_pos (power - exponent).toNat)
    have fits := canonical.fits
    omega
  rw [canonical.roundWithAccuracy_of_value_eq sign (same.trans value.symm) ordered]
  exact holds_finite canonical value sign

/-- Powers of two keep the sign of a mantissa. -/
theorem value_pos_iff {mantissa power integer : Int}
    (same : (mantissa : ℚ) * 2 ^ power = integer) : 0 < integer ↔ 0 < mantissa := by
  have scale : (0 : ℚ) < 2 ^ power := zpow_pos two_pos power
  rw [← Int.cast_pos (R := ℚ), ← same, mul_pos_iff_of_pos_right scale, Int.cast_pos]

theorem value_neg_iff {mantissa power integer : Int}
    (same : (mantissa : ℚ) * 2 ^ power = integer) : integer < 0 ↔ mantissa < 0 := by
  have negated : ((-mantissa : Int) : ℚ) * 2 ^ power = (-integer : Int) := by
    rw [Int.cast_neg, Int.cast_neg, neg_mul, same]
  have signs := value_pos_iff negated
  omega

theorem natAbs_value {mantissa power integer : Int}
    (same : (mantissa : ℚ) * 2 ^ power = integer) :
    (mantissa.natAbs : ℚ) * 2 ^ power = integer.natAbs := by
  have scale : (0 : ℚ) < 2 ^ power := zpow_pos two_pos power
  rw [Nat.cast_natAbs, Nat.cast_natAbs, Int.cast_abs, Int.cast_abs, ← same, abs_mul,
    abs_of_pos scale]

theorem holds_normalize {mantissa power integer : Int}
    (same : (mantissa : ℚ) * 2 ^ power = integer) (within : integer.natAbs ≤ limit)
    (zeroSign : Sign) : Holds (normalize Format.binary64 mantissa power zeroSign) integer := by
  have magnitude := natAbs_value same
  rcases Int.lt_trichotomy mantissa 0 with negative | zero | positive
  · have below : integer < 0 := (value_neg_iff same).mpr negative
    have given : (-mantissa).toNat = mantissa.natAbs := by omega
    have sign : Sign.negative.apply (integer.natAbs : Int) = integer := by
      change -(integer.natAbs : Int) = integer
      omega
    have rounded := holds_round magnitude (by omega) within .negative
    rw [sign, ← given] at rounded
    rw [UnpackedFloat.normalize, Int.compare_eq_lt.mpr negative]
    exact rounded
  · subst zero
    rw [Int.cast_zero, zero_mul] at same
    exact_mod_cast same.symm
  · have above : 0 < integer := (value_pos_iff same).mpr positive
    have given : mantissa.toNat = mantissa.natAbs := by omega
    have sign : Sign.positive.apply (integer.natAbs : Int) = integer := by
      change (integer.natAbs : Int) = integer
      omega
    have rounded := holds_round magnitude (by omega) within .positive
    rw [sign, ← given] at rounded
    rw [UnpackedFloat.normalize, Int.compare_eq_gt.mpr positive]
    exact rounded

theorem pos_of_holds {significand : Nat} {exponent integer : Int} {positive : 0 < significand}
    (holds : Holds (.finite .positive significand exponent positive) integer) : 0 < integer := by
  apply (value_pos_iff holds.2).mpr
  change 0 < (significand : Int)
  omega

theorem neg_of_holds {significand : Nat} {exponent integer : Int} {positive : 0 < significand}
    (holds : Holds (.finite .negative significand exponent positive) integer) : integer < 0 := by
  apply (value_neg_iff holds.2).mpr
  change -(significand : Int) < 0
  omega

theorem ne_zero_of_holds {sign : Sign} {significand : Nat} {exponent integer : Int}
    {positive : 0 < significand} (holds : Holds (.finite sign significand exponent positive) integer) :
    integer ≠ 0 := by
  cases sign
  · exact (neg_of_holds holds).ne
  · exact (pos_of_holds holds).ne'

/-- The significand carries the magnitude of an integer, and the sign carries its sign. -/
theorem magnitude_of_holds {sign : Sign} {significand : Nat} {exponent integer : Int}
    {positive : 0 < significand} (holds : Holds (.finite sign significand exponent positive) integer) :
    (significand : ℚ) * 2 ^ exponent = integer.natAbs ∧ sign.apply integer.natAbs = integer := by
  have magnitude := natAbs_value holds.2
  cases sign
  · have below := neg_of_holds holds
    have unsigned : (Sign.negative.apply (significand : Int)).natAbs = significand :=
      Int.natAbs_neg significand
    rw [unsigned] at magnitude
    refine ⟨magnitude, ?_⟩
    change -(integer.natAbs : Int) = integer
    omega
  · have above := pos_of_holds holds
    refine ⟨magnitude, ?_⟩
    change (integer.natAbs : Int) = integer
    omega

/-- No whole value is so small that its significand is not filled. -/
theorem Canonical.filled_of_value {significand integer : Nat} {exponent : Int}
    (canonical : Canonical significand exponent)
    (value : (significand : ℚ) * 2 ^ exponent = integer) : 2 ^ 52 ≤ significand := by
  refine canonical.filled.resolve_right ?_
  rintro rfl
  have unscaled : (significand : ℚ) * 2 ^ (-1074 : Int) = integer * 2 ^ (0 : Int) := by
    rw [value, zpow_zero, mul_one]
  have large := eq_mul_two_pow_of_value_eq unscaled (by decide)
  have amount : ((0 : Int) - -1074).toNat = 1074 := rfl
  rw [amount] at large
  have fits := canonical.fits
  have positive := canonical.positive
  have factor : 0 < integer := by
    rcases Nat.eq_zero_or_pos integer with zero | nonzero
    · rw [zero, Nat.zero_mul] at large
      omega
    · exact nonzero
  have bound (power : Nat) (high : 53 ≤ power) : 2 ^ 53 ≤ integer * 2 ^ power :=
    Nat.le_trans (Nat.pow_le_pow_right (by decide) high) (Nat.le_mul_of_pos_left _ factor)
  have wide := bound 1074 (by decide)
  rw [← large] at wide
  omega

theorem filled_of_holds {sign : Sign} {significand : Nat} {exponent integer : Int}
    {positive : 0 < significand} (holds : Holds (.finite sign significand exponent positive) integer) :
    2 ^ 52 ≤ significand :=
  holds.1.filled_of_value (magnitude_of_holds holds).1

end RegisterMachine.Number
