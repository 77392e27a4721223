/-
This file finds where a NaN comes from in a sum or a difference.
Finite numbers overflow to an infinity at most, so only two infinities can cancel.
-/

import RegisterMachine.Proofs.Number.Arithmetic
import RegisterMachine.Proofs.Number.Sign

namespace RegisterMachine.Number
open Float.Model Float.Model.UnpackedFloat

/-- Infinities of different signs cancel in a sum. -/
def Opposite (left right : Float) : Prop :=
  ∃ negative, decode left = .infinite negative ∧ decode right = .infinite (!negative)

/-- Infinities of the same sign cancel in a difference. -/
def SameInfinity (left right : Float) : Prop :=
  ∃ negative, decode left = .infinite negative ∧ decode right = .infinite negative

theorem isNaN_unpack_pack (unpacked : UnpackedFloat) :
    (unpack Format.binary64 (pack Format.binary64 unpacked)).isNaN = unpacked.isNaN := by
  rw [isNaN_eq_isNone_signOf?, isNaN_eq_isNone_signOf?, signOf?_unpack_pack]

/-- The exact sum of finite numbers is rounded to a number in any case. -/
theorem isNaN_normalize (integer exponent : Int) (sign : Sign) :
    (normalize Format.binary64 integer exponent sign).isNaN = false := by
  have rounded (other : Sign) (significand : Nat) :
      (UnpackedFloat.round Format.binary64 other significand exponent).isNaN = false := by
    rw [isNaN_eq_isNone_signOf?, UnpackedFloat.round, signOf?_roundWithAccuracy]
    rfl
  rw [UnpackedFloat.normalize]
  split
  · exact rounded _ _
  · rfl
  · exact rounded _ _

theorem isNaN_add_unpacked (left right : UnpackedFloat) :
    (left.add Format.binary64 right).isNaN = true ↔ left.isNaN = true ∨ right.isNaN = true ∨
      ∃ negative, left = .infinity (signOf negative) ∧ right = .infinity (signOf !negative) := by
  cases left with
  | notANumber => simp [UnpackedFloat.add, UnpackedFloat.isNaN]
  | infinity sign =>
      cases right with
      | infinity other =>
          cases sign <;> cases other <;> simp [UnpackedFloat.add, UnpackedFloat.isNaN, signOf]
      | notANumber | zero | finite => simp [UnpackedFloat.add, UnpackedFloat.isNaN]
  | zero sign =>
      cases right with
      | zero other => cases sign <;> cases other <;> simp [UnpackedFloat.add, UnpackedFloat.isNaN]
      | notANumber | infinity | finite => simp [UnpackedFloat.add, UnpackedFloat.isNaN]
  | finite sign significand exponent positive =>
      cases right with
      | finite =>
          -- Only here is a sum rounded, and the other cases have an exact result.
          simp only [UnpackedFloat.add, isNaN_normalize]
          simp [UnpackedFloat.isNaN]
      | notANumber | infinity | zero => simp [UnpackedFloat.add, UnpackedFloat.isNaN]

theorem isNaN_neg_unpacked (unpacked : UnpackedFloat) : unpacked.neg.isNaN = unpacked.isNaN := by
  cases unpacked <;> rfl

theorem neg_eq_infinity_iff {unpacked : UnpackedFloat} {negative : Bool} :
    unpacked.neg = .infinity (signOf !negative) ↔ unpacked = .infinity (signOf negative) := by
  cases unpacked with
  | infinity sign =>
      have flipped : -sign = signOf (!negative) ↔ sign = signOf negative := by
        cases sign <;> cases negative <;> decide
      rwa [UnpackedFloat.neg, UnpackedFloat.infinity.injEq, UnpackedFloat.infinity.injEq]
  | notANumber | zero | finite => simp [UnpackedFloat.neg]

theorem unpack_eq_infinity_iff {value : Float} {negative : Bool} :
    value.toModel.unpack = .infinity (signOf negative) ↔ decode value = .infinite negative := by
  rw [unpack_eq_unpacked]
  cases decode value with
  | notNumber => simp [Decoded.unpacked]
  | infinite other => cases negative <;> cases other <;> simp [Decoded.unpacked, signOf]
  | finite other significand exponent =>
      rw [Decoded.unpacked]
      split <;> simp

theorem isNaN_of_infinite {value : Float} {negative : Bool}
    (infinite : decode value = .infinite negative) : value.isNaN = false := by
  change value.toModel.unpack.isNaN = false
  rw [unpack_eq_infinity_iff.mpr infinite]
  rfl

/-- Numbers are opposite infinities exactly when their sum is no number any more. -/
theorem opposite_iff {left right : Float} : Opposite left right ↔
    left.isNaN = false ∧ right.isNaN = false ∧ (left + right).isNaN = true := by
  have sum := isNaN_add_unpacked left.toModel.unpack right.toModel.unpack
  rw [← isNaN_unpack_pack] at sum
  simp only [unpack_eq_infinity_iff] at sum
  change (left + right).isNaN = true ↔
    left.isNaN = true ∨ right.isNaN = true ∨ Opposite left right at sum
  have numbers (cancels : Opposite left right) : left.isNaN = false ∧ right.isNaN = false := by
    obtain ⟨negative, first, second⟩ := cancels
    exact ⟨isNaN_of_infinite first, isNaN_of_infinite second⟩
  grind

/-- Numbers are the same infinity exactly when their difference is no number any more. -/
theorem sameInfinity_iff {left right : Float} : SameInfinity left right ↔
    left.isNaN = false ∧ right.isNaN = false ∧ (left - right).isNaN = true := by
  have sum := isNaN_add_unpacked left.toModel.unpack right.toModel.unpack.neg
  rw [← isNaN_unpack_pack, ← sub_eq_add_neg] at sum
  simp only [neg_eq_infinity_iff, unpack_eq_infinity_iff, isNaN_neg_unpacked] at sum
  change (left - right).isNaN = true ↔
    left.isNaN = true ∨ right.isNaN = true ∨ SameInfinity left right at sum
  have numbers (cancels : SameInfinity left right) : left.isNaN = false ∧ right.isNaN = false := by
    obtain ⟨negative, first, second⟩ := cancels
    exact ⟨isNaN_of_infinite first, isNaN_of_infinite second⟩
  grind

end RegisterMachine.Number
