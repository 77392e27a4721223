/-
This file proves that the operations on numbers are exact on integers within the limit.
The order of two numbers is then the order of their integers.
-/

import RegisterMachine.Proofs.Number.Integral

namespace RegisterMachine.Number
open Float.Model Float.Model.UnpackedFloat

/-- Aligning a significand to a smaller exponent keeps the value. -/
theorem value_decreaseExponent (sign : Sign) (significand : Nat) {exponent smaller : Int}
    (ordered : smaller ≤ exponent) :
    ((sign.apply (decreaseExponent significand exponent smaller).1 : Int) : ℚ) * 2 ^ smaller =
      ((sign.apply significand : Int) : ℚ) * 2 ^ exponent := by
  have split : (2 : ℚ) ^ exponent = 2 ^ (exponent - smaller).toNat * 2 ^ smaller := by
    rw [← zpow_natCast, ← zpow_add₀ two_ne_zero]
    congr 1
    omega
  rw [decreaseExponent, Nat.shiftLeft_eq, split]
  cases sign <;> simp only [Sign.apply] <;> push_cast <;> ring

theorem holds_add {left right : UnpackedFloat} {first second : Int}
    (holdsLeft : Holds left first) (holdsRight : Holds right second)
    (within : (first + second).natAbs ≤ limit) :
    Holds (add Format.binary64 left right) (first + second) := by
  cases left with
  | notANumber => cases holdsLeft
  | infinity sign => cases holdsLeft
  | zero sign =>
      change first = 0 at holdsLeft
      subst holdsLeft
      cases right with
      | notANumber => cases holdsRight
      | infinity other => cases holdsRight
      | zero other =>
          change second = 0 at holdsRight
          subst holdsRight
          cases sign <;> cases other <;> rfl
      | finite other significand exponent positive =>
          rw [Int.zero_add]
          exact holdsRight
  | finite sign significand exponent positive =>
      cases right with
      | notANumber => cases holdsRight
      | infinity other => cases holdsRight
      | zero other =>
          change second = 0 at holdsRight
          subst holdsRight
          rw [Int.add_zero]
          exact holdsLeft
      | finite other otherSignificand otherExponent otherPositive =>
          apply holds_normalize _ within
          have leftValue := value_decreaseExponent sign significand
            (min_le_left exponent otherExponent)
          have rightValue := value_decreaseExponent other otherSignificand
            (min_le_right exponent otherExponent)
          simp only [decreaseExponent] at leftValue rightValue
          rw [Int.cast_add, add_mul, leftValue, rightValue, holdsLeft.2, holdsRight.2,
            Int.cast_add]

theorem holds_neg {unpacked : UnpackedFloat} {integer : Int} (holds : Holds unpacked integer) :
    Holds unpacked.neg (-integer) := by
  cases unpacked with
  | notANumber => cases holds
  | infinity sign => cases holds
  | zero sign =>
      change integer = 0 at holds
      subst holds
      rfl
  | finite sign significand exponent positive =>
      refine ⟨holds.1, ?_⟩
      rw [Int.cast_neg, ← holds.2]
      cases sign
      · change ((significand : Int) : ℚ) * _ = -(((-(significand : Int) : Int) : ℚ) * _)
        push_cast
        ring
      · change (((-(significand : Int) : Int)) : ℚ) * _ = -(((significand : Int) : ℚ) * _)
        push_cast
        ring

/-- Subtracting a number is adding its negation. -/
theorem sub_eq_add_neg (left right : UnpackedFloat) :
    UnpackedFloat.sub Format.binary64 left right =
      UnpackedFloat.add Format.binary64 left right.neg := by
  cases left <;> cases right <;> try rfl
  next sign significand exponent _ other otherSignificand otherExponent _ =>
    have negated : (-other).apply (decreaseExponent otherSignificand otherExponent
        (min exponent otherExponent)).1 = -other.apply (decreaseExponent otherSignificand
        otherExponent (min exponent otherExponent)).1 := by
      cases other
      · exact (Int.neg_neg _).symm
      · rfl
    simp only [UnpackedFloat.sub, UnpackedFloat.add, UnpackedFloat.neg, negated, Int.sub_eq_add_neg]

theorem apply_mul (sign other : Sign) (left right : Int) :
    (sign * other).apply (left * right) = sign.apply left * other.apply right := by
  cases sign <;> cases other
  · exact (Int.neg_mul_neg left right).symm
  · exact (Int.neg_mul left right).symm
  · exact (Int.mul_neg left right).symm
  · rfl

theorem holds_mul {left right : UnpackedFloat} {first second : Int}
    (holdsLeft : Holds left first) (holdsRight : Holds right second)
    (within : (first * second).natAbs ≤ limit) :
    Holds (mul Format.binary64 left right) (first * second) := by
  cases left with
  | notANumber => cases holdsLeft
  | infinity sign => cases holdsLeft
  | zero sign =>
      change first = 0 at holdsLeft
      subst holdsLeft
      rw [Int.zero_mul]
      cases right with
      | notANumber => cases holdsRight
      | infinity other => cases holdsRight
      | zero other => rfl
      | finite other significand exponent positive => rfl
  | finite sign significand exponent positive =>
      cases right with
      | notANumber => cases holdsRight
      | infinity other => cases holdsRight
      | zero other =>
          change second = 0 at holdsRight
          subst holdsRight
          rw [Int.mul_zero]
          rfl
      | finite other otherSignificand otherExponent otherPositive =>
          obtain ⟨leftValue, leftSign⟩ := magnitude_of_holds holdsLeft
          obtain ⟨rightValue, rightSign⟩ := magnitude_of_holds holdsRight
          have product : ((significand * otherSignificand : Nat) : ℚ) *
              2 ^ (exponent + otherExponent) = (first * second).natAbs := by
            rw [Int.natAbs_mul, Nat.cast_mul, Nat.cast_mul, ← leftValue, ← rightValue,
              zpow_add₀ two_ne_zero]
            ring
          have nonzero : 0 < (first * second).natAbs :=
            Int.natAbs_pos.mpr
              (mul_ne_zero (ne_zero_of_holds holdsLeft) (ne_zero_of_holds holdsRight))
          have wide : 2 ^ 52 * 2 ^ 52 ≤ significand * otherSignificand :=
            Nat.mul_le_mul (filled_of_holds holdsLeft) (filled_of_holds holdsRight)
          have signs : (sign * other).apply ((first * second).natAbs : Int) = first * second := by
            conv_rhs => rw [← leftSign, ← rightSign]
            rw [Int.natAbs_mul, Int.natCast_mul, apply_mul]
          have rounded :=
            holds_roundWithAccuracy product nonzero within (by omega) (sign * other)
          rw [signs] at rounded
          exact rounded

theorem Denotes.add {left right : Float} {first second : Int} (denotesLeft : Denotes left first)
    (denotesRight : Denotes right second) (within : (first + second).natAbs ≤ limit) :
    Denotes (left + right) (first + second) :=
  denotes_pack (holds_add ((denotes_iff_holds left first).mp denotesLeft)
    ((denotes_iff_holds right second).mp denotesRight) within)

theorem Denotes.neg {value : Float} {integer : Int} (denotes : Denotes value integer) :
    Denotes (-value) (-integer) :=
  denotes_pack (holds_neg ((denotes_iff_holds value integer).mp denotes))

theorem Denotes.sub {left right : Float} {first second : Int} (denotesLeft : Denotes left first)
    (denotesRight : Denotes right second) (within : (first - second).natAbs ≤ limit) :
    Denotes (left - right) (first - second) := by
  have negated := holds_neg ((denotes_iff_holds right second).mp denotesRight)
  have sum := holds_add ((denotes_iff_holds left first).mp denotesLeft) negated within
  rw [← sub_eq_add_neg] at sum
  exact denotes_pack sum

theorem Denotes.mul {left right : Float} {first second : Int} (denotesLeft : Denotes left first)
    (denotesRight : Denotes right second) (within : (first * second).natAbs ≤ limit) :
    Denotes (left * right) (first * second) :=
  denotes_pack (holds_mul ((denotes_iff_holds left first).mp denotesLeft)
    ((denotes_iff_holds right second).mp denotesRight) within)

/-- A number that denotes an integer is a number. -/
theorem Denotes.isNaN {value : Float} {integer : Int} (denotes : Denotes value integer) :
    value.isNaN = false := by
  have holds := (denotes_iff_holds value integer).mp denotes
  change value.toModel.unpack.isNaN = false
  cases found : value.toModel.unpack with
  | notANumber =>
      rw [found] at holds
      cases holds
  | infinity sign => rfl
  | zero sign => rfl
  | finite sign significand exponent positive => rfl

/-- Canonical magnitudes are ordered by their exponents first. -/
theorem value_lt_of_exponent_lt {first second : Nat} {small large : Int}
    (fits : first < 2 ^ 53) (filled : 2 ^ 52 ≤ second) (ordered : small < large) :
    (first : ℚ) * 2 ^ small < second * 2 ^ large := by
  have scale : (0 : ℚ) < 2 ^ small := zpow_pos two_pos small
  calc (first : ℚ) * 2 ^ small
      < 2 ^ 53 * 2 ^ small := by
        apply mul_lt_mul_of_pos_right _ scale
        exact_mod_cast fits
    _ = 2 ^ 52 * 2 ^ (small + 1) := by
        rw [zpow_add₀ two_ne_zero]
        ring
    _ ≤ second * 2 ^ large := by
        have power : (2 : ℚ) ^ (small + 1) ≤ 2 ^ large :=
          zpow_le_zpow_right₀ one_le_two (by omega)
        have whole : (2 : ℚ) ^ 52 ≤ second := by exact_mod_cast filled
        exact mul_le_mul whole power (zpow_pos two_pos _).le (Nat.cast_nonneg second)

/-- Comparing exponents and then significands compares the values. -/
theorem compare_magnitudes {first second left right : Nat} {firstExponent secondExponent : Int}
    (firstFits : first < 2 ^ 53) (firstFilled : 2 ^ 52 ≤ first) (secondFits : second < 2 ^ 53)
    (secondFilled : 2 ^ 52 ≤ second) (leftValue : (first : ℚ) * 2 ^ firstExponent = left)
    (rightValue : (second : ℚ) * 2 ^ secondExponent = right) :
    (compare firstExponent secondExponent).then (compare first second) = compare left right := by
  rcases lt_trichotomy firstExponent secondExponent with less | same | greater
  · have values := value_lt_of_exponent_lt firstFits secondFilled less
    rw [leftValue, rightValue, Nat.cast_lt] at values
    rw [compare_lt_iff_lt.mpr less, compare_lt_iff_lt.mpr values]
    rfl
  · subst same
    have scale : (0 : ℚ) < 2 ^ firstExponent := zpow_pos two_pos firstExponent
    rw [compare_eq_iff_eq.mpr rfl]
    change compare first second = compare left right
    rcases lt_trichotomy first second with less | same | greater
    · have values : left < right := by
        have scaled := mul_lt_mul_of_pos_right (Nat.cast_lt.mpr less) scale
        rw [leftValue, rightValue] at scaled
        exact_mod_cast scaled
      rw [compare_lt_iff_lt.mpr less, compare_lt_iff_lt.mpr values]
    · have values : left = right := by
        rw [same, rightValue] at leftValue
        exact_mod_cast leftValue.symm
      rw [compare_eq_iff_eq.mpr same, compare_eq_iff_eq.mpr values]
    · have values : right < left := by
        have scaled := mul_lt_mul_of_pos_right (Nat.cast_lt.mpr greater) scale
        rw [leftValue, rightValue] at scaled
        exact_mod_cast scaled
      rw [compare_gt_iff_gt.mpr greater, compare_gt_iff_gt.mpr values]
  · have values := value_lt_of_exponent_lt secondFits firstFilled greater
    rw [leftValue, rightValue, Nat.cast_lt] at values
    rw [compare_gt_iff_gt.mpr greater, compare_gt_iff_gt.mpr values]
    rfl

theorem compare_natAbs_of_pos {first second : Int} (left : 0 < first) (right : 0 < second) :
    compare first.natAbs second.natAbs = compare first second := by
  rcases Int.lt_trichotomy first second with less | same | greater
  · rw [compare_lt_iff_lt.mpr less, compare_lt_iff_lt.mpr (by omega)]
  · rw [compare_eq_iff_eq.mpr same, compare_eq_iff_eq.mpr (by omega)]
  · rw [compare_gt_iff_gt.mpr greater, compare_gt_iff_gt.mpr (by omega)]

/-- The magnitudes of negative integers are ordered the other way. -/
theorem compare_natAbs_of_neg {first second : Int} (left : first < 0) (right : second < 0) :
    (compare first.natAbs second.natAbs).swap = compare first second := by
  rcases Int.lt_trichotomy first second with less | same | greater
  · rw [compare_lt_iff_lt.mpr less, compare_gt_iff_gt.mpr (by omega)]
    rfl
  · rw [compare_eq_iff_eq.mpr same, compare_eq_iff_eq.mpr (by omega)]
    rfl
  · rw [compare_gt_iff_gt.mpr greater, compare_lt_iff_lt.mpr (by omega)]
    rfl

/-- The signs are compared first, and then the magnitudes. -/
theorem compare_finite_of_holds {sign other : Sign} {significand otherSignificand : Nat}
    {exponent otherExponent first second : Int} {positive : 0 < significand}
    {otherPositive : 0 < otherSignificand}
    (holdsLeft : Holds (.finite sign significand exponent positive) first)
    (holdsRight : Holds (.finite other otherSignificand otherExponent otherPositive) second) :
    UnpackedFloat.compare (.finite sign significand exponent positive)
        (.finite other otherSignificand otherExponent otherPositive) =
      some (compare first second) := by
  have magnitudes := compare_magnitudes holdsLeft.1.fits (filled_of_holds holdsLeft)
    holdsRight.1.fits (filled_of_holds holdsRight) (magnitude_of_holds holdsLeft).1
    (magnitude_of_holds holdsRight).1
  cases sign <;> cases other
  · have below := neg_of_holds holdsLeft
    have otherBelow := neg_of_holds holdsRight
    change some ((compare exponent otherExponent).then
      (compare significand otherSignificand)).swap = _
    rw [magnitudes, compare_natAbs_of_neg below otherBelow]
  · have below := neg_of_holds holdsLeft
    have above := pos_of_holds holdsRight
    rw [compare_lt_iff_lt.mpr (below.trans above)]
    rfl
  · have above := pos_of_holds holdsLeft
    have below := neg_of_holds holdsRight
    rw [compare_gt_iff_gt.mpr (below.trans above)]
    rfl
  · have above := pos_of_holds holdsLeft
    have otherAbove := pos_of_holds holdsRight
    change some ((compare exponent otherExponent).then
      (compare significand otherSignificand)) = _
    rw [magnitudes, compare_natAbs_of_pos above otherAbove]

/-- The order of the operands is the order of their integers. -/
theorem compare_of_holds {left right : UnpackedFloat} {first second : Int}
    (holdsLeft : Holds left first) (holdsRight : Holds right second) :
    UnpackedFloat.compare left right = some (compare first second) := by
  cases left with
  | notANumber => cases holdsLeft
  | infinity sign => cases holdsLeft
  | zero sign =>
      change first = 0 at holdsLeft
      cases right with
      | notANumber => cases holdsRight
      | infinity other => cases holdsRight
      | zero other =>
          change second = 0 at holdsRight
          rw [holdsLeft, holdsRight]
          rfl
      | finite other significand exponent positive =>
          cases other
          · have below := neg_of_holds holdsRight
            rw [compare_gt_iff_gt.mpr (holdsLeft ▸ below)]
            rfl
          · have above := pos_of_holds holdsRight
            rw [compare_lt_iff_lt.mpr (holdsLeft ▸ above)]
            rfl
  | finite sign significand exponent positive =>
      cases right with
      | notANumber => cases holdsRight
      | infinity other => cases holdsRight
      | zero other =>
          change second = 0 at holdsRight
          cases sign
          · have below := neg_of_holds holdsLeft
            rw [compare_lt_iff_lt.mpr (holdsRight ▸ below)]
            rfl
          · have above := pos_of_holds holdsLeft
            rw [compare_gt_iff_gt.mpr (holdsRight ▸ above)]
            rfl
      | finite other otherSignificand otherExponent otherPositive =>
          exact compare_finite_of_holds holdsLeft holdsRight

/-- The order of two numbers is that of what the operations see of them. -/
theorem lt_iff_compare (left right : Float) :
    left < right ↔ left.toModel.unpack.compare right.toModel.unpack = some .lt := by
  have models : left < right ↔ left.toModel < right.toModel := decide_eq_true_iff
  rw [models]
  exact beq_iff_eq

theorem beq_eq_compare (left right : Float) :
    (left == right) = (left.toModel.unpack.compare right.toModel.unpack == some .eq) := rfl

theorem Denotes.lt_iff {left right : Float} {first second : Int}
    (denotesLeft : Denotes left first) (denotesRight : Denotes right second) :
    left < right ↔ first < second := by
  have order := compare_of_holds ((denotes_iff_holds left first).mp denotesLeft)
    ((denotes_iff_holds right second).mp denotesRight)
  rw [lt_iff_compare, order, Option.some.injEq, compare_lt_iff_lt]

theorem Denotes.beq_eq {left right : Float} {first second : Int}
    (denotesLeft : Denotes left first) (denotesRight : Denotes right second) :
    (left == right) = decide (first = second) := by
  have order := compare_of_holds ((denotes_iff_holds left first).mp denotesLeft)
    ((denotes_iff_holds right second).mp denotesRight)
  rw [beq_eq_compare, order, Bool.eq_iff_iff, beq_iff_eq, Option.some.injEq, compare_eq_iff_eq,
    decide_eq_true_eq]

/-- Canonical forms of one value are the same. -/
theorem Canonical.eq_of_value_eq {first second : Nat} {firstExponent secondExponent : Int}
    (left : Canonical first firstExponent) (right : Canonical second secondExponent)
    (same : (first : ℚ) * 2 ^ firstExponent = second * 2 ^ secondExponent) :
    first = second ∧ firstExponent = secondExponent := by
  have rounded := right.round_of_value_eq .positive same
  rw [left.round_of_value_eq .positive rfl, UnpackedFloat.finite.injEq] at rounded
  exact ⟨rounded.2.1, rounded.2.2⟩

/-- Two numbers of one integer and one sign are the same, also when the integer is zero. -/
theorem Denotes.eq_of_sign {left right : Float} {integer : Int} {negative : Bool}
    {first second firstExponent secondExponent : Nat}
    (foundLeft : decode left = .finite negative first firstExponent)
    (foundRight : decode right = .finite negative second secondExponent)
    (denotesLeft : Denotes left integer) (denotesRight : Denotes right integer) :
    left = right := by
  have holdsLeft := (denotes_iff_holds left integer).mp denotesLeft
  have holdsRight := (denotes_iff_holds right integer).mp denotesRight
  rw [unpack_eq_unpacked, foundLeft] at holdsLeft
  rw [unpack_eq_unpacked, foundRight] at holdsRight
  have sameFields : first = second ∧ firstExponent = secondExponent := by
    rcases Nat.eq_zero_or_pos first with firstZero | firstPositive
    · subst firstZero
      rw [Decoded.unpacked_zero] at holdsLeft
      change integer = 0 at holdsLeft
      rcases Nat.eq_zero_or_pos second with secondZero | secondPositive
      · subst secondZero
        exact ⟨rfl, (exponent_of_decodeBits_zero foundLeft).trans
          (exponent_of_decodeBits_zero foundRight).symm⟩
      · rw [Decoded.unpacked_of_pos secondPositive] at holdsRight
        exact absurd holdsLeft (ne_zero_of_holds holdsRight)
    · rw [Decoded.unpacked_of_pos firstPositive] at holdsLeft
      rcases Nat.eq_zero_or_pos second with secondZero | secondPositive
      · subst secondZero
        rw [Decoded.unpacked_zero] at holdsRight
        exact absurd holdsRight (ne_zero_of_holds holdsLeft)
      · rw [Decoded.unpacked_of_pos secondPositive] at holdsRight
        have magnitudes := (magnitude_of_holds holdsLeft).1.trans
          (magnitude_of_holds holdsRight).1.symm
        obtain ⟨significands, exponents⟩ :=
          holdsLeft.1.eq_of_value_eq holdsRight.1 magnitudes
        exact ⟨significands, by omega⟩
  rw [sameFields.1, sameFields.2] at foundLeft
  exact eq_of_decode foundLeft foundRight

end RegisterMachine.Number
