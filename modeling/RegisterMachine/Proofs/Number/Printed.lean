/-
This file proves that a number that denotes an integer is written with the digits of the integer.
No shorter decimal is close enough to take their place.
-/

import RegisterMachine.Number.Written
import RegisterMachine.Proofs.Number.Arithmetic

namespace RegisterMachine.Number

/-- The search ends at the middle if no other multiple of an early unit lies in the interval. -/
theorem RoundingInterval.coarsest_eq_middle {interval : RoundingInterval} {places : Nat}
    (inside : interval.contains interval.middle = true)
    (whole : 10 ^ places ∣ interval.middle)
    (alone : ∀ decimal, 10 ^ places ∣ decimal → interval.contains decimal = true →
      decimal = interval.middle) {power : Nat} (reached : places ≤ power) :
    interval.coarsest power = interval.middle := by
  induction power with
  | zero => rfl
  | succ power ih =>
      rw [RoundingInterval.coarsest, Nat.pow_eq]
      cases found : interval.nearestMultiple? (10 ^ (power + 1)) with
      | some decimal =>
          have divides := RoundingInterval.dvd_of_nearestMultiple? found
          have coarse : 10 ^ places ∣ decimal :=
            Nat.dvd_trans (Nat.pow_dvd_pow 10 reached) divides
          exact alone decimal coarse (RoundingInterval.contains_of_nearestMultiple? found)
      | none =>
          rcases Nat.lt_or_eq_of_le reached with below | equal
          · exact ih (Nat.le_of_lt_succ below)
          · obtain ⟨factor, multiple⟩ := whole
            have missed :=
              RoundingInterval.not_contains_of_nearestMultiple?_eq_none inside found factor
            rw [← equal, Nat.mul_comm, ← multiple, inside] at missed
            cases missed

/-- A decimal in the interval lies within two quarters of the middle. -/
theorem RoundingInterval.near_of_contains_ofBinary {significand exponent decimal : Nat}
    (fine : exponent ≤ 1076)
    (inside : (RoundingInterval.ofBinary significand exponent).contains decimal = true) :
    4 * significand * 5 ^ decimalPlaces exponent ≤ decimal + 2 * 5 ^ decimalPlaces exponent ∧
      decimal ≤ 4 * significand * 5 ^ decimalPlaces exponent + 2 * 5 ^ decimalPlaces exponent := by
  have unit : 2 ^ (exponent - 1076) * 5 ^ decimalPlaces exponent = 5 ^ decimalPlaces exponent := by
    rw [Nat.sub_eq_zero_of_le fine, Nat.pow_zero, Nat.one_mul]
  have bounds : (RoundingInterval.ofBinary significand exponent).low ≤ decimal ∧
      decimal ≤ (RoundingInterval.ofBinary significand exponent).high := by
    rw [RoundingInterval.contains] at inside
    split at inside
    · exact of_decide_eq_true inside
    · have strict := of_decide_eq_true inside
      exact ⟨Nat.le_of_lt strict.1, Nat.le_of_lt strict.2⟩
  simp only [RoundingInterval.ofBinary, Nat.pow_eq, unit] at bounds
  generalize 5 ^ decimalPlaces exponent = quarter at bounds ⊢
  have lower : (4 * significand - 2) * quarter ≤
      (4 * significand - if significand = 2 ^ 52 ∧ 0 < exponent then 1 else 2) * quarter := by
    apply Nat.mul_le_mul_right
    split <;> omega
  rw [Nat.sub_mul] at lower
  rw [Nat.add_mul] at bounds
  omega

/-- Two multiples of a unit that are closer than the unit are the same. -/
theorem eq_of_near_multiples {first second unit slack : Nat} (gap : slack < unit)
    (above : first * unit ≤ second * unit + slack)
    (below : second * unit ≤ first * unit + slack) : first = second := by
  rcases Nat.lt_trichotomy first second with less | same | greater
  · have step := Nat.mul_le_mul_right unit (Nat.succ_le_of_lt less)
    rw [Nat.succ_mul] at step
    omega
  · exact same
  · have step := Nat.mul_le_mul_right unit (Nat.succ_le_of_lt greater)
    rw [Nat.succ_mul] at step
    omega

/-- An integer with at least two places to spare is its own shortest decimal. -/
theorem RoundingInterval.shortest_ofBinary {significand exponent integer : Nat}
    (positive : 0 < significand) (fine : exponent + 2 ≤ 1076)
    (value : 4 * significand = integer * 2 ^ decimalPlaces exponent) :
    (RoundingInterval.ofBinary significand exponent).shortest =
      integer * 10 ^ decimalPlaces exponent := by
  have unit : 2 ^ (exponent - 1076) * 5 ^ decimalPlaces exponent = 5 ^ decimalPlaces exponent := by
    rw [Nat.sub_eq_zero_of_le (by omega), Nat.pow_zero, Nat.one_mul]
  have tens : (10 : Nat) ^ decimalPlaces exponent =
      2 ^ decimalPlaces exponent * 5 ^ decimalPlaces exponent := by
    rw [← Nat.mul_pow]
  have middle : (RoundingInterval.ofBinary significand exponent).middle =
      integer * 10 ^ decimalPlaces exponent := by
    simp only [RoundingInterval.ofBinary, Nat.pow_eq, unit]
    rw [value, tens, Nat.mul_assoc]
  have nonzero : 0 < integer := by
    rcases Nat.eq_zero_or_pos integer with zero | larger
    · rw [zero, Nat.zero_mul] at value
      omega
    · exact larger
  have places : 2 ≤ decimalPlaces exponent := by
    rw [decimalPlaces]
    omega
  rw [← middle]
  apply RoundingInterval.coarsest_eq_middle
    (RoundingInterval.contains_middle_ofBinary positive exponent)
  · rw [middle]
    exact Nat.dvd_mul_left _ _
  · intro decimal divides inside
    obtain ⟨factor, rfl⟩ := divides
    have near := RoundingInterval.near_of_contains_ofBinary (by omega) inside
    have gap : 2 * 5 ^ decimalPlaces exponent < 10 ^ decimalPlaces exponent := by
      rw [tens]
      apply Nat.mul_lt_mul_of_pos_right _ (Nat.pow_pos (by decide))
      calc 2 < 2 ^ 2 := by decide
        _ ≤ 2 ^ decimalPlaces exponent := Nat.pow_le_pow_right (by decide) places
    rw [value, Nat.mul_assoc, ← tens, Nat.mul_comm _ factor] at near
    rw [middle, Nat.mul_comm, eq_of_near_multiples gap near.2 near.1]
  · by_contra short
    have small := (Nat.length_toDigits_le_iff (b := 10) (by decide) (by omega)).mp
      (Nat.le_of_lt (Nat.not_le.mp short))
    have high : (RoundingInterval.ofBinary significand exponent).middle ≤
        (RoundingInterval.ofBinary significand exponent).high :=
      Nat.mul_le_mul_right _ (by omega)
    have large := Nat.le_mul_of_pos_left (10 ^ decimalPlaces exponent) nonzero
    omega

/-- A fraction without remainder has no digits. -/
theorem fractionDigits_zero (places : Nat) : fractionDigits places 0 = [] := by
  have zeros : ∀ digit ∈ (List.replicate (places - 1) '0' ++ ['0']).reverse,
      (digit == '0') = true := by
    simp
  have none := List.dropWhile_eq_nil_iff.mpr zeros
  rw [fractionDigits, Nat.toDigits_zero]
  exact congrArg List.reverse none

theorem positional_whole (places integer : Nat) :
    positional places (integer * 10 ^ places) = Nat.toDigits 10 integer := by
  have unit : 0 < 10 ^ places := Nat.pow_pos (by decide)
  rw [positional, Nat.pow_eq, Nat.mul_div_cancel _ unit, Nat.mul_mod_left]
  simp only [fractionDigits_zero, if_true]

/-- The greatest power of two within the limit has too few places for the general argument. -/
theorem writeMagnitude_limit : writeMagnitude (2 ^ 52) 1075 = Nat.toDigits 10 limit := by
  decide +kernel

/-- Only the limit itself has an exponent above that of the units. -/
theorem eq_limit_of_value {significand exponent integer : Nat} (filled : 2 ^ 52 ≤ significand)
    (high : 1074 < exponent)
    (value : (significand : ℚ) * 2 ^ ((exponent : Int) - 1074) = integer)
    (within : integer ≤ limit) :
    significand = 2 ^ 52 ∧ exponent = 1075 ∧ integer = limit := by
  have whole : integer = significand * 2 ^ (exponent - 1074) := by
    have same : (integer : ℚ) * 2 ^ (0 : Int) = significand * 2 ^ ((exponent : Int) - 1074) := by
      rw [value, zpow_zero, mul_one]
    have amount : ((exponent : Int) - 1074 - 0).toNat = exponent - 1074 := by omega
    rw [eq_mul_two_pow_of_value_eq same (by omega), amount]
  obtain ⟨power, rfl⟩ : ∃ power, exponent = 1075 + power := ⟨exponent - 1075, by omega⟩
  have shift : 1075 + power - 1074 = power + 1 := by omega
  rw [shift, Nat.pow_succ] at whole
  rw [limit] at within ⊢
  have exact : power = 0 := by
    by_contra nonzero
    have even : 2 ≤ 2 ^ power := Nat.le_self_pow nonzero 2
    have larger := Nat.mul_le_mul filled even
    rw [← Nat.mul_assoc] at whole
    omega
  subst exact
  omega

/-- An integer within the limit is written with its decimal digits. -/
theorem writeMagnitude_of_value {significand exponent integer : Nat}
    (canonical : Canonical significand ((exponent : Int) - 1074))
    (value : (significand : ℚ) * 2 ^ ((exponent : Int) - 1074) = integer)
    (within : integer ≤ limit) :
    writeMagnitude significand exponent = Nat.toDigits 10 integer := by
  have filled := canonical.filled_of_value value
  rcases Nat.lt_or_ge 1074 exponent with high | low
  · obtain ⟨rfl, rfl, rfl⟩ := eq_limit_of_value filled high value within
    exact writeMagnitude_limit
  · have fine : 4 * significand = integer * 2 ^ decimalPlaces exponent := by
      have same : (significand : ℚ) * 2 ^ ((exponent : Int) - 1074) = integer * 2 ^ (0 : Int) := by
        rw [value, zpow_zero, mul_one]
      have split : decimalPlaces exponent = (0 - ((exponent : Int) - 1074)).toNat + 2 := by
        rw [decimalPlaces]
        omega
      rw [split, eq_mul_two_pow_of_value_eq same (by omega), Nat.pow_add]
      ring
    rw [writeMagnitude, if_neg (Nat.ne_of_gt canonical.positive),
      RoundingInterval.shortest_ofBinary canonical.positive (by omega) fine, positional_whole]

/-- The decoding of an integer has its sign and its digits, and a zero can have either sign. -/
theorem Denotes.decode_eq {value : Float} {integer : Int} (denotes : Denotes value integer)
    (within : integer.natAbs ≤ limit) :
    ∃ negative significand exponent, decode value = .finite negative significand exponent ∧
      writeMagnitude significand exponent = Nat.toDigits 10 integer.natAbs ∧
      (integer ≠ 0 → negative = decide (integer < 0)) := by
  have holds := (denotes_iff_holds value integer).mp denotes
  rw [unpack_eq_unpacked] at holds
  cases found : decode value with
  | notNumber =>
      rw [found] at holds
      cases holds
  | infinite negative =>
      rw [found] at holds
      cases holds
  | finite negative significand exponent =>
      rw [found] at holds
      refine ⟨negative, significand, exponent, rfl, ?_⟩
      rcases Nat.eq_zero_or_pos significand with zero | positive
      · subst zero
        rw [Decoded.unpacked_zero] at holds
        change integer = 0 at holds
        subst holds
        exact ⟨rfl, fun nonzero => absurd rfl nonzero⟩
      · rw [Decoded.unpacked_of_pos positive] at holds
        refine ⟨writeMagnitude_of_value holds.1 (magnitude_of_holds holds).1 within, ?_⟩
        intro nonzero
        cases negative
        · have above := pos_of_holds holds
          exact (decide_eq_false (by omega)).symm
        · have below := neg_of_holds holds
          exact (decide_eq_true below).symm

/-- The plain text of an integer is its canonical decimal. -/
theorem Denotes.plain_eq {value : Float} {integer : Int} (denotes : Denotes value integer)
    (within : integer.natAbs ≤ limit) : plain value = toString integer := by
  have stored : decode 0.0 = .finite false 0 0 := by decide +kernel
  have zero := denotes_zero stored
  obtain ⟨negative, significand, exponent, found, digits, sign⟩ := denotes.decode_eq within
  rw [plain, denotes.beq_eq zero, Int.toString_eq_repr, Int.repr_eq_if]
  by_cases same : integer = 0
  · subst same
    rfl
  · rw [if_neg (by simpa using same), written, found, Decoded.write, digits, sign same]
    rcases Int.lt_or_lt_of_ne same with below | above
    · have magnitude : (-integer).toNat = integer.natAbs := by omega
      rw [decide_eq_true below, if_neg (by omega), magnitude, Nat.repr_eq_ofList_toDigits]
      exact String.ofList_append
    · have magnitude : integer.toNat = integer.natAbs := by omega
      rw [decide_eq_false (by omega), if_pos (by omega), magnitude, Nat.repr_eq_ofList_toDigits]
      rfl

end RegisterMachine.Number
