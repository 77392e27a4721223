/-
This file follows the sign of a number through the operations that read a literal.
Only a NaN has no sign, so a literal that always has one never becomes a NaN, however long it is.
-/

import RegisterMachine.Literal
import RegisterMachine.Proofs.Number.Stored

namespace RegisterMachine.Number
open Float.Model Float.Model.UnpackedFloat

instance decidableEqSign : DecidableEq Sign
  | .negative, .negative => isTrue rfl
  | .negative, .positive => isFalse nofun
  | .positive, .negative => isFalse nofun
  | .positive, .positive => isTrue rfl

/-- Zeros and infinities have a sign too. -/
def signOf? : UnpackedFloat → Option Sign
  | .notANumber => none
  | .infinity sign | .zero sign | .finite sign _ _ _ => some sign

/-- The sign of a number is the one that its operations see. -/
def sign? (value : Float) : Option Sign :=
  signOf? value.toModel.unpack

theorem isNaN_eq_isNone_signOf? (unpacked : UnpackedFloat) :
    unpacked.isNaN = (signOf? unpacked).isNone := by
  cases unpacked <;> rfl

theorem isNaN_eq_isNone_sign? (value : Float) : value.isNaN = (sign? value).isNone :=
  isNaN_eq_isNone_signOf? value.toModel.unpack

theorem signOf?_unpacked_finite (negative : Bool) (significand exponent : Nat) :
    signOf? (Decoded.finite negative significand exponent).unpacked = some (signOf negative) := by
  rw [Decoded.unpacked]
  split <;> rfl

theorem signOf_inj {first second : Bool} : signOf first = signOf second ↔ first = second := by
  cases first <;> cases second <;> decide

theorem signOf?_decodeBits {bits : Nat} {negative : Bool}
    (signed : signOf? (decodeBits bits).unpacked = some (signOf negative)) :
    decide (bits / 2 ^ 63 % 2 = 1) = negative := by
  simp only [decodeBits, Nat.pow_eq] at signed
  split at signed
  · split at signed
    · exact signOf_inj.mp (Option.some.inj signed)
    · cases signed
  · split at signed <;>
      exact signOf_inj.mp (Option.some.inj ((signOf?_unpacked_finite _ _ _).symm.trans signed))

/-- The sign of a number is stored in its first bit. -/
theorem testBit_of_sign? {value : Float} {negative : Bool}
    (signed : sign? value = some (signOf negative)) :
    value.toBits.toNat.testBit 63 = negative := by
  rw [sign?, unpack_eq_unpacked] at signed
  rw [Nat.testBit_eq_decide_div_mod_eq]
  exact signOf?_decodeBits signed

/-- Fields that are put together keep their sign unless they stand for something infinite. -/
theorem signOf?_unpack_packComponents (sign : Sign) {exponent : Nat}
    (finite : exponent < 2047) (fraction : BitVec 52) :
    signOf? (UnpackedFloat.unpack Format.binary64
      (packComponents Format.binary64 sign (BitVec.ofNat 11 exponent) fraction)) = some sign := by
  obtain ⟨negative, rfl⟩ := exists_signOf sign
  have read := decodeBits_packComponents negative exponent fraction.toNat finite fraction.isLt
  rw [BitVec.ofNat_toNat, BitVec.setWidth_eq] at read
  rw [unpack_eq_decodeBits, read]
  split <;> exact signOf?_unpacked_finite negative _ _

/-- Storing a number can round it to an infinity but does not change its sign. -/
theorem signOf?_unpack_pack (unpacked : UnpackedFloat) :
    signOf? (UnpackedFloat.unpack Format.binary64
      (UnpackedFloat.pack Format.binary64 unpacked)) = signOf? unpacked := by
  have infinite (sign : Sign) : signOf? (UnpackedFloat.unpack Format.binary64
      (packedInfinity Format.binary64 sign)) = some sign := by
    cases sign <;> rfl
  cases unpacked with
  | notANumber => rfl
  | infinity sign => exact infinite sign
  | zero sign => cases sign <;> rfl
  | finite sign significand exponent positive =>
      rw [UnpackedFloat.pack]
      split
      · exact infinite sign
      · next inRange =>
          split
          · apply signOf?_unpack_packComponents sign
            change ¬2 ^ 11 ≤ _ + 1 at inRange
            omega
          · exact signOf?_unpack_packComponents sign (by decide : 0 < 2047) _

theorem signOf?_roundWithAccuracy (sign : Sign) (significand : Nat) (exponent : Int)
    (accuracy : Accuracy) :
    signOf? (roundWithAccuracy Format.binary64 sign significand exponent accuracy) =
      some sign := by
  simp only [roundWithAccuracy]
  split <;> rfl

/-- A sum of magnitudes is positive, also if it is rounded to zero. -/
theorem signOf?_normalize {integer : Int} (natural : 0 ≤ integer) (exponent : Int) :
    signOf? (normalize Format.binary64 integer exponent .positive) = some .positive := by
  rw [UnpackedFloat.normalize]
  split
  · next below =>
      rw [Int.compare_eq_lt] at below
      omega
  · rfl
  · exact signOf?_roundWithAccuracy .positive _ _ _

theorem sign?_neg (value : Float) : sign? (-value) = (sign? value).map (- ·) := by
  refine (signOf?_unpack_pack value.toModel.unpack.neg).trans ?_
  rw [sign?]
  cases value.toModel.unpack <;> rfl

/-- A factor that is finite and positive keeps the sign, also of an infinity. -/
theorem sign?_mul {left right : Float} {significand exponent : Nat} (nonzero : 0 < significand)
    (found : decode right = .finite false significand exponent) :
    sign? (left * right) = sign? left := by
  refine (signOf?_unpack_pack (left.toModel.unpack.mul _ right.toModel.unpack)).trans ?_
  rw [sign?, unpack_eq_unpacked right, found, Decoded.unpacked_of_pos nonzero]
  have positive (sign : Sign) : sign * .positive = sign := by cases sign <;> rfl
  cases left.toModel.unpack with
  | notANumber => rfl
  | infinity sign => exact congrArg some (positive sign)
  | zero sign => exact congrArg some (positive sign)
  | finite sign other otherExponent otherPositive =>
      exact (signOf?_roundWithAccuracy _ _ _ _).trans (congrArg some (positive sign))

/-- A sum of positive numbers is positive and no NaN, also if one of them is infinite. -/
theorem sign?_add {left right : Float} (positiveLeft : sign? left = some .positive)
    (positiveRight : sign? right = some .positive) : sign? (left + right) = some .positive := by
  refine (signOf?_unpack_pack (left.toModel.unpack.add _ right.toModel.unpack)).trans ?_
  rw [sign?] at positiveLeft positiveRight
  generalize left.toModel.unpack = first at positiveLeft ⊢
  generalize right.toModel.unpack = second at positiveRight ⊢
  -- Only infinities of different signs would add up to a NaN.
  cases first with
  | notANumber => cases positiveLeft
  | infinity sign =>
      cases positiveLeft
      cases second with
      | notANumber => cases positiveRight
      | infinity other => cases positiveRight; rfl
      | zero | finite => rfl
  | zero sign =>
      cases positiveLeft
      cases second with
      | notANumber => cases positiveRight
      | zero other => cases positiveRight; rfl
      | infinity | finite => exact positiveRight
  | finite sign significand exponent positive =>
      cases positiveLeft
      cases second with
      | notANumber => cases positiveRight
      | infinity other => exact positiveRight
      | zero other => rfl
      | finite other otherSignificand otherExponent otherPositive =>
          cases positiveRight
          exact signOf?_normalize (Int.add_nonneg (Int.natCast_nonneg _) (Int.natCast_nonneg _)) _

theorem exists_decode_base (radix : Radix) : ∃ significand exponent, 0 < significand ∧
    decode (Float.ofNat radix.base) = .finite false significand exponent := by
  cases radix with
  | binary => exact ⟨2 ^ 52, 1023, by decide, by decide +kernel⟩
  | octal => exact ⟨2 ^ 52, 1025, by decide, by decide +kernel⟩
  | decimal => exact ⟨5 * 2 ^ 50, 1025, by decide, by decide +kernel⟩
  | hexadecimal => exact ⟨2 ^ 52, 1026, by decide, by decide +kernel⟩

theorem sign?_digit : ∀ digit < 16, sign? (Float.ofNat digit) = some .positive := by
  decide +kernel

/-- Taking in one more digit keeps a total positive, also when it has become infinite. -/
theorem sign?_mul_base_add_digit {total : Float} (positive : sign? total = some .positive)
    (radix : Radix) {digit : Nat} (within : digit < radix.base) :
    sign? (total * Float.ofNat radix.base + Float.ofNat digit) = some .positive := by
  obtain ⟨significand, exponent, nonzero, found⟩ := exists_decode_base radix
  have small : digit < 16 := Nat.lt_of_lt_of_le within (by cases radix <;> decide)
  exact sign?_add ((sign?_mul nonzero found).trans positive) (sign?_digit digit small)

/-- The total is positive from the first digit to the last. -/
theorem sign?_foldl_digits {radix : Radix} {digits : List Nat}
    (withinRadix : ∀ digit ∈ digits, digit < radix.base) {total : Float}
    (positive : sign? total = some .positive) :
    sign? (digits.foldl (fun total digit =>
      total * Float.ofNat radix.base + Float.ofNat digit) total) = some .positive := by
  induction digits generalizing total with
  | nil => exact positive
  | cons digit rest ih =>
      have next := sign?_mul_base_add_digit positive radix (withinRadix digit List.mem_cons_self)
      exact ih (fun other later => withinRadix other (List.mem_cons_of_mem digit later)) next

end RegisterMachine.Number

namespace RegisterMachine
open Number Float.Model.UnpackedFloat

theorem Literal.sign?_roundedMagnitude (literal : Literal) :
    sign? literal.roundedMagnitude = some .positive :=
  sign?_foldl_digits literal.withinRadix (sign?_digit 0 (by decide))

/-- The number of a literal has the sign of the literal. -/
theorem Literal.sign?_toFloat (literal : Literal) :
    sign? literal.toFloat = some (signOf literal.negative) := by
  have magnitude := literal.sign?_roundedMagnitude
  rw [Literal.toFloat]
  cases literal.negative with
  | false => exact magnitude
  | true => exact (sign?_neg literal.roundedMagnitude).trans (congrArg _ magnitude)

/-- No literal is a NaN, not even one that overflows. -/
theorem Literal.isNaN_toFloat (literal : Literal) : literal.toFloat.isNaN = false := by
  rw [isNaN_eq_isNone_sign?, literal.sign?_toFloat]
  rfl

end RegisterMachine
