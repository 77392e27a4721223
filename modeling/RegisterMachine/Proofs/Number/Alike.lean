/-
This file proves that the operations on numbers cannot tell a zero from its negative.
The two zeros are the only numbers that compare equal without being the same.
-/

import RegisterMachine.Comparison
import RegisterMachine.Number.Written
import RegisterMachine.Proofs.Number.Arithmetic

namespace RegisterMachine.Number
open Float.Model Float.Model.UnpackedFloat

/-- Alike numbers compare equal, or neither of them is a number. -/
def Alike (first second : Float) : Prop :=
  (first == second) = true ∨ first.isNaN = true ∧ second.isNaN = true

/-- The operations see alike numbers as the same, unless both are zeros. -/
inductive AlikeUnpacked : UnpackedFloat → UnpackedFloat → Prop where
  | same (unpacked : UnpackedFloat) : AlikeUnpacked unpacked unpacked
  | zeros (sign other : Sign) : AlikeUnpacked (.zero sign) (.zero other)

theorem compare_magnitudes_eq_iff {first second : Nat} {firstExponent secondExponent : Int} :
    (compare firstExponent secondExponent).then (compare first second) = .eq ↔
      firstExponent = secondExponent ∧ first = second := by
  rw [Ordering.then_eq_eq, compare_eq_iff_eq, compare_eq_iff_eq]

/-- Numbers that are not NaN compare equal to themselves. -/
theorem compare_self {unpacked : UnpackedFloat} (number : unpacked.isNaN = false) :
    unpacked.compare unpacked = some .eq := by
  cases unpacked with
  | notANumber => cases number
  | infinity sign => cases sign <;> rfl
  | zero sign => rfl
  | finite sign significand exponent positive =>
      have same : (compare exponent exponent).then (compare significand significand) = .eq :=
        compare_magnitudes_eq_iff.mpr ⟨rfl, rfl⟩
      cases sign
      · exact congrArg (fun order => some order.swap) same
      · exact congrArg some same

/-- Numbers that compare equal are the same or both zeros. -/
theorem alikeUnpacked_of_compare {left right : UnpackedFloat}
    (equal : left.compare right = some .eq) : AlikeUnpacked left right := by
  cases left with
  | notANumber => cases equal
  | infinity sign =>
      cases right with
      | notANumber => cases equal
      | infinity other =>
          cases sign <;> cases other <;> first | exact .same _ | cases equal
      | zero | finite => cases sign <;> cases equal
  | zero sign =>
      cases right with
      | notANumber => cases equal
      | infinity other => cases other <;> cases equal
      | zero other => exact .zeros sign other
      | finite other => cases other <;> cases equal
  | finite sign significand exponent positive =>
      cases right with
      | notANumber => cases equal
      | infinity other => cases other <;> cases equal
      | zero other => cases sign <;> cases equal
      | finite other otherSignificand otherExponent otherPositive =>
          have magnitudes : sign = other ∧ (compare exponent otherExponent).then
              (compare significand otherSignificand) = .eq := by
            cases sign <;> cases other
            · exact ⟨rfl, Ordering.swap_eq_eq.mp (Option.some.inj equal)⟩
            · cases equal
            · cases equal
            · exact ⟨rfl, Option.some.inj equal⟩
          obtain ⟨rfl, ordered⟩ := magnitudes
          obtain ⟨rfl, rfl⟩ := compare_magnitudes_eq_iff.mp ordered
          exact .same _

theorem eq_notANumber_of_isNaN {unpacked : UnpackedFloat} (nan : unpacked.isNaN = true) :
    unpacked = .notANumber := by
  cases unpacked <;> first | rfl | cases nan

/-- A NaN is like any other, for the operations see no more of it than that it is one. -/
theorem alike_iff (first second : Float) :
    Alike first second ↔ AlikeUnpacked first.toModel.unpack second.toModel.unpack := by
  rw [Alike, beq_eq_compare, beq_iff_eq]
  change _ ∨ first.toModel.unpack.isNaN = true ∧ second.toModel.unpack.isNaN = true ↔ _
  constructor
  · rintro (equal | ⟨left, right⟩)
    · exact alikeUnpacked_of_compare equal
    · rw [eq_notANumber_of_isNaN left, eq_notANumber_of_isNaN right]
      exact .same _
  · generalize first.toModel.unpack = left
    generalize second.toModel.unpack = right
    rintro (_ | _)
    · rcases Bool.eq_false_or_eq_true left.isNaN with nan | number
      · exact .inr ⟨nan, nan⟩
      · exact .inl (compare_self number)
    · exact .inl rfl

theorem AlikeUnpacked.isNaN_eq {left right : UnpackedFloat} (alike : AlikeUnpacked left right) :
    left.isNaN = right.isNaN := by
  cases alike <;> rfl

theorem AlikeUnpacked.neg {left right : UnpackedFloat} (alike : AlikeUnpacked left right) :
    AlikeUnpacked left.neg right.neg := by
  cases alike with
  | same => exact .same _
  | zeros sign other => exact .zeros _ _

/-- A zero is neutral in a sum with anything but a zero, and zeros add up to a zero. -/
theorem AlikeUnpacked.add {left right leftOther rightOther : UnpackedFloat}
    (alikeLeft : AlikeUnpacked left leftOther) (alikeRight : AlikeUnpacked right rightOther) :
    AlikeUnpacked (left.add Format.binary64 right) (leftOther.add Format.binary64 rightOther) := by
  have zeros (first second firstOther secondOther : Sign) :
      AlikeUnpacked ((UnpackedFloat.zero first).add Format.binary64 (.zero second))
        ((UnpackedFloat.zero firstOther).add Format.binary64 (.zero secondOther)) := by
    have sum (sign other : Sign) : ∃ result,
        (UnpackedFloat.zero sign).add Format.binary64 (.zero other) = .zero result := by
      cases sign <;> cases other <;> exact ⟨_, rfl⟩
    obtain ⟨result, found⟩ := sum first second
    obtain ⟨resultOther, foundOther⟩ := sum firstOther secondOther
    rw [found, foundOther]
    exact .zeros result resultOther
  cases alikeLeft with
  | same left =>
      cases alikeRight with
      | same right => exact .same _
      | zeros second secondOther =>
          cases left with
          | notANumber | infinity | finite => exact .same _
          | zero first => exact zeros first second first secondOther
  | zeros first firstOther =>
      cases alikeRight with
      | same right =>
          cases right with
          | notANumber | infinity | finite => exact .same _
          | zero second => exact zeros first second firstOther second
      | zeros second secondOther => exact zeros first second firstOther secondOther

/-- A comparison does not look at the sign of a zero. -/
theorem AlikeUnpacked.compare_eq {left right leftOther rightOther : UnpackedFloat}
    (alikeLeft : AlikeUnpacked left leftOther) (alikeRight : AlikeUnpacked right rightOther) :
    left.compare right = leftOther.compare rightOther := by
  cases alikeLeft with
  | same left =>
      cases alikeRight with
      | same right => rfl
      | zeros second secondOther =>
          cases left with
          | notANumber | zero => rfl
          | infinity sign | finite sign => cases sign <;> rfl
  | zeros first firstOther =>
      cases alikeRight with
      | same right =>
          cases right with
          | notANumber | zero => rfl
          | infinity sign | finite sign => cases sign <;> rfl
      | zeros second secondOther => rfl

/-- A zero is stored as a zero. -/
theorem AlikeUnpacked.unpack_pack {left right : UnpackedFloat}
    (alike : AlikeUnpacked left right) :
    AlikeUnpacked (unpack Format.binary64 (pack Format.binary64 left))
      (unpack Format.binary64 (pack Format.binary64 right)) := by
  have stored (sign : Sign) :
      unpack Format.binary64 (pack Format.binary64 (.zero sign)) = .zero sign := by
    cases sign <;> rfl
  cases alike with
  | same => exact .same _
  | zeros sign other =>
      rw [stored, stored]
      exact .zeros sign other

theorem Alike.refl (value : Float) : Alike value value :=
  (alike_iff value value).mpr (.same _)

theorem Alike.add {left right leftOther rightOther : Float} (alikeLeft : Alike left leftOther)
    (alikeRight : Alike right rightOther) : Alike (left + right) (leftOther + rightOther) :=
  (alike_iff _ _).mpr
    (((alike_iff _ _).mp alikeLeft).add ((alike_iff _ _).mp alikeRight)).unpack_pack

theorem Alike.sub {left right leftOther rightOther : Float} (alikeLeft : Alike left leftOther)
    (alikeRight : Alike right rightOther) : Alike (left - right) (leftOther - rightOther) := by
  have sum := ((alike_iff _ _).mp alikeLeft).add ((alike_iff _ _).mp alikeRight).neg
  rw [← sub_eq_add_neg, ← sub_eq_add_neg] at sum
  exact (alike_iff _ _).mpr sum.unpack_pack

theorem Alike.isNaN_eq {first second : Float} (alike : Alike first second) :
    first.isNaN = second.isNaN :=
  ((alike_iff first second).mp alike).isNaN_eq

theorem Alike.beq_eq {left right leftOther rightOther : Float} (alikeLeft : Alike left leftOther)
    (alikeRight : Alike right rightOther) : (left == right) = (leftOther == rightOther) := by
  have order := ((alike_iff _ _).mp alikeLeft).compare_eq ((alike_iff _ _).mp alikeRight)
  rw [beq_eq_compare, beq_eq_compare, order]

theorem Alike.lt_iff {left right leftOther rightOther : Float} (alikeLeft : Alike left leftOther)
    (alikeRight : Alike right rightOther) : left < right ↔ leftOther < rightOther := by
  have order := ((alike_iff _ _).mp alikeLeft).compare_eq ((alike_iff _ _).mp alikeRight)
  rw [lt_iff_compare, lt_iff_compare, order]

theorem Alike.test_eq {left right leftOther rightOther : Float} (alikeLeft : Alike left leftOther)
    (alikeRight : Alike right rightOther) (comparison : Comparison) :
    comparison.test left right = comparison.test leftOther rightOther := by
  cases comparison with
  | greaterThan => exact decide_eq_decide.mpr (alikeRight.lt_iff alikeLeft)
  | lessThan => exact decide_eq_decide.mpr (alikeLeft.lt_iff alikeRight)
  | equals => exact alikeLeft.beq_eq alikeRight

/-- Numbers compare equal in both orders or in none. -/
theorem beq_symm (left right : Float) : (left == right) = (right == left) := by
  have exchanged {first second : Float} (equal : (first == second) = true) :
      (second == first) = true := by
    rw [beq_eq_compare, beq_iff_eq] at equal ⊢
    generalize first.toModel.unpack = u at equal ⊢
    generalize second.toModel.unpack = v at equal ⊢
    cases alikeUnpacked_of_compare equal with
    | same => exact equal
    | zeros sign other => rfl
  exact Bool.eq_iff_iff.mpr ⟨exchanged, exchanged⟩

/-- The flipped comparison gives the same result for the exchanged numbers. -/
theorem test_flipped (comparison : Comparison) (left right : Float) :
    comparison.flipped.test right left = comparison.test left right := by
  cases comparison with
  | greaterThan => rfl
  | lessThan => rfl
  | equals => exact beq_symm right left

/-- Both zeros are written without a sign, and other numbers that are alike are the same. -/
theorem Alike.plain_eq {first second : Float} (alike : Alike first second) :
    plain first = plain second := by
  have zero : (0.0 : Float).toModel.unpack = .zero .positive := by
    have stored : decode 0.0 = .finite false 0 0 := by decide +kernel
    rw [unpack_eq_unpacked, stored]
    exact Decoded.unpacked_zero false 0
  have unpacked := (alike_iff first second).mp alike
  generalize left : first.toModel.unpack = u at unpacked
  generalize right : second.toModel.unpack = v at unpacked
  cases unpacked with
  | same => rw [eq_of_unpack (left.trans right.symm)]
  | zeros sign other =>
      have found : (first == 0.0) = true := by
        rw [beq_eq_compare, left, zero]
        rfl
      have foundOther : (second == 0.0) = true := (alike.beq_eq (.refl 0.0)).symm.trans found
      rw [plain, plain, if_pos found, if_pos foundOther]

end RegisterMachine.Number
