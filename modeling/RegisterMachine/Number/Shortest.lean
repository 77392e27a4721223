/-
This file finds the shortest decimal that rounds to a given binary64 number.
All decimals of one number share a count of places, so the search runs over natural numbers.
-/

namespace RegisterMachine.Number

/-- The decimals between the bounds round to the middle, which is the number itself. -/
structure RoundingInterval where
  low : Nat
  middle : Nat
  high : Nat
  /-- The bounds themselves round to the middle. -/
  closed : Bool

/-- This test asks whether a decimal rounds to the middle. -/
def RoundingInterval.contains (interval : RoundingInterval) (decimal : Nat) : Bool :=
  if interval.closed then decide (interval.low ≤ decimal ∧ decimal ≤ interval.high)
  else decide (interval.low < decimal ∧ decimal < interval.high)

/-- The nearest multiple of the unit wins, and the larger one wins a tie. -/
def RoundingInterval.nearestMultiple? (interval : RoundingInterval) (unit : Nat) : Option Nat :=
  let below := interval.middle / unit * unit
  let above := below + unit
  match interval.contains below, interval.contains above with
  | true, true => if interval.middle - below < above - interval.middle then some below else some above
  | true, false => some below
  | false, true => some above
  | false, false => none

/-- The search tries the powers of ten from the given one down and ends at the middle. -/
def RoundingInterval.coarsest (interval : RoundingInterval) : Nat → Nat
  | 0 => interval.middle
  | power + 1 => (interval.nearestMultiple? (Nat.pow 10 (power + 1))).getD (interval.coarsest power)

/-- The coarsest decimal in the interval has the fewest digits. -/
def RoundingInterval.shortest (interval : RoundingInterval) : Nat :=
  interval.coarsest (Nat.toDigits 10 interval.high).length

/-- This count of places makes the number and its bounds whole. -/
def decimalPlaces (exponent : Nat) : Nat :=
  1076 - exponent

/-- The bounds lie halfway to the neighbours, and the neighbour below a power of two is closer. -/
def RoundingInterval.ofBinary (significand exponent : Nat) : RoundingInterval :=
  let quarter := Nat.pow 2 (exponent - 1076) * Nat.pow 5 (decimalPlaces exponent)
  let narrow := significand = Nat.pow 2 52 ∧ 0 < exponent
  { low := (4 * significand - if narrow then 1 else 2) * quarter
    middle := 4 * significand * quarter
    high := (4 * significand + 2) * quarter
    closed := significand % 2 = 0 }

theorem RoundingInterval.contains_of_nearestMultiple? {interval : RoundingInterval}
    {unit decimal : Nat} (found : interval.nearestMultiple? unit = some decimal) :
    interval.contains decimal = true := by
  simp only [RoundingInterval.nearestMultiple?] at found
  split at found
  · next below above =>
      split at found
      · exact Option.some.inj found ▸ below
      · exact Option.some.inj found ▸ above
  · next below _ => exact Option.some.inj found ▸ below
  · next _ above => exact Option.some.inj found ▸ above
  · cases found

theorem RoundingInterval.dvd_of_nearestMultiple? {interval : RoundingInterval}
    {unit decimal : Nat} (found : interval.nearestMultiple? unit = some decimal) :
    unit ∣ decimal := by
  have below : unit ∣ interval.middle / unit * unit := Nat.dvd_mul_left unit _
  have above : unit ∣ interval.middle / unit * unit + unit := Nat.dvd_add below (Nat.dvd_refl unit)
  simp only [RoundingInterval.nearestMultiple?] at found
  split at found
  · split at found
    · exact Option.some.inj found ▸ below
    · exact Option.some.inj found ▸ above
  · exact Option.some.inj found ▸ below
  · exact Option.some.inj found ▸ above
  · cases found

/-- The decimals that round to the middle have no gap around it. -/
theorem RoundingInterval.contains_between {interval : RoundingInterval} {outer inner : Nat}
    (middle : interval.contains interval.middle = true)
    (reached : interval.contains outer = true)
    (between : outer ≤ inner ∧ inner ≤ interval.middle ∨
      interval.middle ≤ inner ∧ inner ≤ outer) :
    interval.contains inner = true := by
  cases closed : interval.closed <;>
    simp only [RoundingInterval.contains, closed, Bool.false_eq_true, if_true, if_false,
      decide_eq_true_eq] at * <;> omega

/-- A unit without a nearest multiple has no multiple in the interval. -/
theorem RoundingInterval.not_contains_of_nearestMultiple?_eq_none {interval : RoundingInterval}
    {unit : Nat} (middle : interval.contains interval.middle = true)
    (missing : interval.nearestMultiple? unit = none) (factor : Nat) :
    interval.contains (factor * unit) = false := by
  have neighbours : interval.contains (interval.middle / unit * unit) = false ∧
      interval.contains (interval.middle / unit * unit + unit) = false := by
    simp only [RoundingInterval.nearestMultiple?] at missing
    split at missing
    · split at missing <;> cases missing
    · cases missing
    · cases missing
    · next below above => exact ⟨below, above⟩
  apply Bool.eq_false_iff.mpr
  intro reached
  rcases Nat.lt_or_ge (interval.middle / unit) factor with larger | smaller
  · have past : interval.middle / unit * unit + unit ≤ factor * unit := by
      have step := Nat.mul_le_mul_right unit (Nat.succ_le_of_lt larger)
      rwa [Nat.succ_mul] at step
    have beyond : interval.middle ≤ interval.middle / unit * unit + unit := by
      rcases Nat.eq_zero_or_pos unit with zero | positive
      · subst zero
        simp only [Nat.mul_zero] at *
        rw [neighbours.1] at reached
        cases reached
      · have remainder := Nat.mod_lt interval.middle positive
        have parts := Nat.div_add_mod' interval.middle unit
        omega
    have inside := RoundingInterval.contains_between middle reached (.inr ⟨beyond, past⟩)
    rw [neighbours.2] at inside
    cases inside
  · have past : factor * unit ≤ interval.middle / unit * unit := Nat.mul_le_mul_right unit smaller
    have inside := RoundingInterval.contains_between middle reached
      (.inl ⟨past, Nat.div_mul_le_self interval.middle unit⟩)
    rw [neighbours.1] at inside
    cases inside

/-- The search keeps to the interval, so its result rounds to the middle. -/
theorem RoundingInterval.contains_coarsest {interval : RoundingInterval}
    (middle : interval.contains interval.middle = true) (power : Nat) :
    interval.contains (interval.coarsest power) = true := by
  induction power with
  | zero => exact middle
  | succ power ih =>
      rw [RoundingInterval.coarsest]
      cases found : interval.nearestMultiple? (Nat.pow 10 (power + 1)) with
      | none => exact ih
      | some decimal => exact RoundingInterval.contains_of_nearestMultiple? found

theorem RoundingInterval.contains_shortest {interval : RoundingInterval}
    (middle : interval.contains interval.middle = true) :
    interval.contains interval.shortest = true :=
  RoundingInterval.contains_coarsest middle _

/-- A number that is not zero lies strictly between its bounds. -/
theorem RoundingInterval.contains_middle_ofBinary {significand : Nat} (positive : 0 < significand)
    (exponent : Nat) :
    (RoundingInterval.ofBinary significand exponent).contains
      (RoundingInterval.ofBinary significand exponent).middle = true := by
  have quarter : 0 < Nat.pow 2 (exponent - 1076) * Nat.pow 5 (decimalPlaces exponent) :=
    Nat.mul_pos (Nat.pow_pos (by decide)) (Nat.pow_pos (by decide))
  have low : (RoundingInterval.ofBinary significand exponent).low <
      (RoundingInterval.ofBinary significand exponent).middle := by
    apply Nat.mul_lt_mul_of_pos_right _ quarter
    split <;> omega
  have high : (RoundingInterval.ofBinary significand exponent).middle <
      (RoundingInterval.ofBinary significand exponent).high :=
    Nat.mul_lt_mul_of_pos_right (by omega) quarter
  simp only [RoundingInterval.contains]
  split <;> exact decide_eq_true ⟨by omega, by omega⟩

end RegisterMachine.Number
