/-
This file proves that decoding a number finds what its operations work on.
Each finite number has one canonical significand and exponent, and storing them keeps both.
-/

import Mathlib
import RegisterMachine.Number.Binary

namespace RegisterMachine.Number
open Float.Model Float.Model.UnpackedFloat

/-- A sign tells whether a number is negative. -/
def signOf (negative : Bool) : Sign :=
  if negative then .negative else .positive

theorem exists_signOf (sign : Sign) : ∃ negative, signOf negative = sign := by
  cases sign
  · exact ⟨true, rfl⟩
  · exact ⟨false, rfl⟩

/-- The operations work on an exponent that counts from the units and not from the steps. -/
def Decoded.unpacked : Decoded → UnpackedFloat
  | .notNumber => .notANumber
  | .infinite negative => .infinity (signOf negative)
  | .finite negative significand exponent =>
      if positive : 0 < significand then
        .finite (signOf negative) significand ((exponent : Int) - 1074) positive
      else .zero (signOf negative)

theorem Decoded.unpacked_of_pos {significand : Nat} (positive : 0 < significand)
    (negative : Bool) (exponent : Nat) :
    (Decoded.finite negative significand exponent).unpacked =
      .finite (signOf negative) significand ((exponent : Int) - 1074) positive :=
  dif_pos positive

theorem Decoded.unpacked_zero (negative : Bool) (exponent : Nat) :
    (Decoded.finite negative 0 exponent).unpacked = .zero (signOf negative) := by
  rw [Decoded.unpacked, dif_neg (Nat.lt_irrefl 0)]

theorem toNat_unpackExponent (bits : BitVec Format.binary64.numBits) :
    (unpackExponent bits).toNat = bits.toNat / 2 ^ 52 % 2 ^ 11 := by
  simp [unpackExponent, Nat.shiftRight_eq_div_pow]

theorem toNat_unpackMantissa (bits : BitVec Format.binary64.numBits) :
    (unpackMantissa bits).toNat = bits.toNat % 2 ^ 52 := by
  simp [unpackMantissa]

theorem toNat_unpackSign (bits : BitVec Format.binary64.numBits) :
    (unpackSign bits).toNat = bits.toNat / 2 ^ 63 % 2 := by
  simp [unpackSign, Nat.shiftRight_eq_div_pow]

theorem ofBitVec_unpackSign (bits : BitVec Format.binary64.numBits) :
    Sign.ofBitVec (unpackSign bits) = signOf (decide (bits.toNat / 2 ^ 63 % 2 = 1)) := by
  have clear : unpackSign bits = 0#1 ↔ bits.toNat / 2 ^ 63 % 2 = 0 := by
    rw [← BitVec.toNat_inj, toNat_unpackSign]
    rfl
  rw [Sign.ofBitVec, signOf]
  by_cases zero : bits.toNat / 2 ^ 63 % 2 = 0
  · rw [if_pos (clear.mpr zero), zero]
    rfl
  · have one : bits.toNat / 2 ^ 63 % 2 = 1 := by omega
    rw [if_neg (mt clear.mp zero), one]
    rfl

theorem implicit_append (fraction : BitVec 52) :
    (1#1 ++ fraction).toNat = 2 ^ 52 + fraction.toNat := by
  rw [BitVec.toNat_append, ← Nat.shiftLeft_add_eq_or_of_lt fraction.isLt]
  rfl

/-- Decoding and unpacking read the same fields. -/
theorem unpack_eq_decodeBits (stored : BitVec Format.binary64.numBits) :
    UnpackedFloat.unpack Format.binary64 stored = (decodeBits stored.toNat).unpacked := by
  have exponent := toNat_unpackExponent stored
  have fraction := toNat_unpackMantissa stored
  have sign := ofBitVec_unpackSign stored
  have full : unpackExponent stored = -1#_ ↔ stored.toNat / 2 ^ 52 % 2 ^ 11 = 2047 := by
    rw [← exponent, ← BitVec.toNat_inj]
    rfl
  have empty : unpackExponent stored = 0#_ ↔ stored.toNat / 2 ^ 52 % 2 ^ 11 = 0 := by
    rw [← exponent, ← BitVec.toNat_inj]
    rfl
  have whole : unpackMantissa stored = 0#_ ↔ stored.toNat % 2 ^ 52 = 0 := by
    rw [← fraction, ← BitVec.toNat_inj]
    rfl
  rw [UnpackedFloat.unpack, decodeBits]
  simp only [Nat.pow_eq]
  by_cases special : stored.toNat / 2 ^ 52 % 2 ^ 11 = 2047
  · rw [if_pos (full.mpr special), if_pos special]
    by_cases infinite : stored.toNat % 2 ^ 52 = 0
    · rw [if_pos (whole.mpr infinite), if_pos infinite, sign]
      rfl
    · rw [if_neg (mt whole.mp infinite), if_neg infinite]
      rfl
  · rw [if_neg (mt full.mp special), if_neg special]
    by_cases small : stored.toNat / 2 ^ 52 % 2 ^ 11 = 0
    · rw [if_pos (empty.mpr small), if_pos small, sign]
      by_cases zero : stored.toNat % 2 ^ 52 = 0
      · rw [dif_pos (whole.mpr zero), zero, Decoded.unpacked_zero]
      · rw [dif_neg (mt whole.mp zero), Decoded.unpacked_of_pos (Nat.pos_of_ne_zero zero),
          UnpackedFloat.finite.injEq, exponent, small]
        exact ⟨rfl, fraction, rfl⟩
    · have positive : 0 < 2 ^ 52 + stored.toNat % 2 ^ 52 := by omega
      rw [if_neg (mt empty.mp small), if_neg small, sign, Decoded.unpacked_of_pos positive,
        UnpackedFloat.finite.injEq]
      refine ⟨rfl, (implicit_append _).trans (by rw [fraction]), ?_⟩
      rw [exponent]
      change ((stored.toNat / 2 ^ 52 % 2 ^ 11 : Nat) : Int) - (1023 + 52) = _
      omega

theorem unpack_eq_unpacked (value : Float) : value.toModel.unpack = (decode value).unpacked :=
  unpack_eq_decodeBits value.toModel.toBits.toBitVec

/-- A canonical significand fills fifty-three bits, unless its exponent is the least. -/
structure Canonical (significand : Nat) (exponent : Int) : Prop where
  positive : 0 < significand
  fits : significand < 2 ^ 53
  filled : 2 ^ 52 ≤ significand ∨ exponent = -1074
  least : -1074 ≤ exponent
  greatest : exponent ≤ 971

/-- Only canonical numbers are stored. -/
theorem canonical_of_decodeBits {bits significand exponent : Nat} {negative : Bool}
    (found : decodeBits bits = .finite negative significand exponent)
    (positive : 0 < significand) : Canonical significand ((exponent : Int) - 1074) := by
  simp only [decodeBits, Nat.pow_eq] at found
  split at found
  · split at found <;> cases found
  · split at found
    · cases found
      exact ⟨positive, by omega, .inr (by omega), by omega, by omega⟩
    · cases found
      exact ⟨positive, by omega, .inl (by omega), by omega, by omega⟩

/-- A zero is stored with the least exponent. -/
theorem exponent_of_decodeBits_zero {bits exponent : Nat} {negative : Bool}
    (found : decodeBits bits = .finite negative 0 exponent) : exponent = 0 := by
  simp only [decodeBits, Nat.pow_eq] at found
  split at found
  · split at found <;> cases found
  · split at found
    · exact (Decoded.finite.inj found).2.2.symm
    · have significand := (Decoded.finite.inj found).2.1
      omega

theorem log2_of_filled {significand : Nat} (filled : 2 ^ 52 ≤ significand)
    (fits : significand < 2 ^ 53) : significand.log2 = 52 := by
  have nonzero : significand ≠ 0 := by omega
  have lower : 52 ≤ significand.log2 := (Nat.le_log2 nonzero).mpr filled
  have upper : significand.log2 < 53 := (Nat.log2_lt nonzero).mpr fits
  omega

/-- The exponent of a canonical number is the one that rounding aims at. -/
theorem Canonical.target {significand : Nat} {exponent : Int}
    (canonical : Canonical significand exponent) :
    Format.binary64.targetExponent (totalExponent significand exponent) = exponent := by
  have upper : significand.log2 < 53 :=
    (Nat.log2_lt (Nat.ne_of_gt canonical.positive)).mpr canonical.fits
  have least := canonical.least
  change max ((significand.log2 : Int) + 1 + exponent - 53) (-1074) = exponent
  rcases canonical.filled with filled | lowest
  · rw [log2_of_filled filled canonical.fits]
    omega
  · omega

/-- A number is determined by what the operations see of it. -/
theorem eq_of_unpack {first second : Float}
    (same : first.toModel.unpack = second.toModel.unpack) : first = second := by
  have bits := (unpack_inj_of_valid first.toModel.valid second.toModel.valid).mp same
  apply Float.toBits_inj.mp
  exact UInt64.toBitVec_inj.mp bits

/-- A finite number is determined by its decoding. -/
theorem eq_of_decode {first second : Float} {negative : Bool} {significand exponent : Nat}
    (left : decode first = .finite negative significand exponent)
    (right : decode second = .finite negative significand exponent) : first = second := by
  apply eq_of_unpack
  rw [unpack_eq_unpacked, unpack_eq_unpacked, left, right]

/-- The fields that are put together are the ones that are decoded. -/
theorem decodeBits_packComponents (negative : Bool) (exponent fraction : Nat)
    (exponentFits : exponent < 2047) (fractionFits : fraction < 2 ^ 52) :
    decodeBits (packComponents Format.binary64 (signOf negative) (BitVec.ofNat 11 exponent)
        (BitVec.ofNat 52 fraction)).toNat =
      if exponent = 0 then .finite negative fraction 0
      else .finite negative (2 ^ 52 + fraction) (exponent - 1) := by
  generalize packed : packComponents Format.binary64 (signOf negative)
    (BitVec.ofNat 11 exponent) (BitVec.ofNat 52 fraction) = bits
  have exponentPart : bits.toNat / 2 ^ 52 % 2 ^ 11 = exponent := by
    rw [← toNat_unpackExponent, ← packed, unpackExponent_packComponents]
    exact Nat.mod_eq_of_lt (by omega)
  have fractionPart : bits.toNat % 2 ^ 52 = fraction := by
    rw [← toNat_unpackMantissa, ← packed, unpackMantissa_packComponents]
    exact Nat.mod_eq_of_lt fractionFits
  have signPart : decide (bits.toNat / 2 ^ 63 % 2 = 1) = negative := by
    rw [← toNat_unpackSign, ← packed, unpackSign_packComponents]
    cases negative <;> rfl
  simp only [decodeBits, Nat.pow_eq, exponentPart, fractionPart, signPart]
  exact if_neg (Nat.ne_of_lt exponentFits)

/-- Storing a canonical number keeps it. -/
theorem Canonical.unpack_pack {significand : Nat} {exponent : Int}
    (canonical : Canonical significand exponent) (negative : Bool) :
    UnpackedFloat.unpack Format.binary64
        (UnpackedFloat.pack Format.binary64
          (.finite (signOf negative) significand exponent canonical.positive)) =
      .finite (signOf negative) significand exponent canonical.positive := by
  obtain ⟨positive, fits, filled, least, greatest⟩ := canonical
  obtain ⟨biased, shifted⟩ : ∃ biased : Nat, exponent + 1075 = biased :=
    ⟨(exponent + 1075).toNat, by omega⟩
  have bias : (exponent + (Format.binary64.exponentBias : Int) +
      (Format.binary64.mantissaBitsWithoutImplicit : Int)).toNat = biased := by
    change (exponent + 1023 + 52).toNat = biased
    omega
  have inRange : ¬2 ^ Format.binary64.exponentBits ≤ biased + 1 := by
    change ¬2 ^ 11 ≤ biased + 1
    omega
  rw [unpack_eq_decodeBits, UnpackedFloat.pack, bias, if_neg inRange]
  by_cases normal : 2 ^ 52 ≤ significand
  · have full : significand.log2 + 1 = Format.binary64.mantissaBits := by
      rw [log2_of_filled normal fits]
      rfl
    have cleared : BitVec.ofNat 52 significand = BitVec.ofNat 52 (significand - 2 ^ 52) := by
      apply BitVec.eq_of_toNat_eq
      rw [BitVec.toNat_ofNat, BitVec.toNat_ofNat]
      omega
    have read := decodeBits_packComponents negative biased (significand - 2 ^ 52) (by omega)
      (by omega)
    rw [if_neg (by omega), Nat.add_sub_cancel' normal] at read
    rw [if_pos full]
    change (decodeBits (packComponents Format.binary64 (signOf negative) (BitVec.ofNat 11 biased)
      (BitVec.ofNat 52 significand)).toNat).unpacked = _
    rw [cleared, read, Decoded.unpacked_of_pos positive, UnpackedFloat.finite.injEq]
    exact ⟨rfl, rfl, by omega⟩
  · have lowest : exponent = -1074 := filled.resolve_left normal
    have partly : ¬significand.log2 + 1 = Format.binary64.mantissaBits := by
      have upper : significand.log2 < 52 :=
        (Nat.log2_lt (Nat.ne_of_gt positive)).mpr (Nat.not_le.mp normal)
      change ¬significand.log2 + 1 = 53
      omega
    have read := decodeBits_packComponents negative 0 significand (by omega) (by omega)
    rw [if_pos rfl] at read
    rw [if_neg partly]
    change (decodeBits (packComponents Format.binary64 (signOf negative) (BitVec.ofNat 11 0)
      (BitVec.ofNat 52 significand)).toNat).unpacked = _
    rw [read, Decoded.unpacked_of_pos positive, UnpackedFloat.finite.injEq]
    exact ⟨rfl, rfl, by omega⟩

end RegisterMachine.Number
