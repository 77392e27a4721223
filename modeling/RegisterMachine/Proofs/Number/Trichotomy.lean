/-
This file proves that two numbers stand in exactly one of the three relations.
A NaN is the exception, for it stands in none of them to any number.
-/

import Mathlib.Logic.ExistsUnique
import RegisterMachine.Proofs.Number.Alike

namespace RegisterMachine

/-- A comparison asks for one of the three orders in which two numbers can stand. -/
def Comparison.order : Comparison → Ordering
  | .greaterThan => .gt
  | .lessThan => .lt
  | .equals => .eq

theorem Comparison.order_injective {first second : Comparison}
    (same : first.order = second.order) : first = second := by
  cases first <;> cases second <;> first | rfl | cases same

theorem Comparison.exists_order (order : Ordering) :
    ∃ comparison : Comparison, comparison.order = order := by
  cases order with
  | lt => exact ⟨.lessThan, rfl⟩
  | eq => exact ⟨.equals, rfl⟩
  | gt => exact ⟨.greaterThan, rfl⟩

namespace Number
open Float.Model

/-- The order is turned around when the numbers are exchanged. -/
theorem compare_exchanged (left right : UnpackedFloat) :
    right.compare left = (left.compare right).map Ordering.swap := by
  cases left with
  | notANumber => cases right <;> rfl
  | infinity sign =>
      cases right with
      | infinity other => cases sign <;> cases other <;> rfl
      | notANumber | zero | finite => cases sign <;> rfl
  | zero sign =>
      cases right with
      | notANumber | zero => rfl
      | infinity other | finite other => cases other <;> rfl
  | finite sign significand exponent positive =>
      cases right with
      | notANumber => rfl
      | infinity other => cases other <;> rfl
      | zero other => cases sign <;> rfl
      | finite other otherSignificand otherExponent otherPositive =>
          have magnitudes : (compare otherExponent exponent).then
              (compare otherSignificand significand) =
                ((compare exponent otherExponent).then
                  (compare significand otherSignificand)).swap := by
            rw [Ordering.swap_then, Int.compare_swap, Nat.compare_swap]
          cases sign <;> cases other
          · exact congrArg (fun order => some order.swap) magnitudes
          · rfl
          · rfl
          · exact congrArg some magnitudes

/-- Two numbers have an order if neither of them is a NaN. -/
theorem exists_compare {left right : UnpackedFloat} (leftNumber : left.isNaN = false)
    (rightNumber : right.isNaN = false) : ∃ order, left.compare right = some order := by
  cases left with
  | notANumber => cases leftNumber
  | infinity sign =>
      cases right with
      | notANumber => cases rightNumber
      | infinity | zero | finite => cases sign <;> exact ⟨_, rfl⟩
  | zero sign =>
      cases right with
      | notANumber => cases rightNumber
      | zero => exact ⟨_, rfl⟩
      | infinity other | finite other => cases other <;> exact ⟨_, rfl⟩
  | finite sign =>
      cases right with
      | notANumber => cases rightNumber
      | infinity other => cases other <;> exact ⟨_, rfl⟩
      | zero => cases sign <;> exact ⟨_, rfl⟩
      | finite other => cases sign <;> cases other <;> exact ⟨_, rfl⟩

/-- A NaN on either side leaves no order. -/
theorem compare_eq_none {left right : UnpackedFloat}
    (refused : left.isNaN = true ∨ right.isNaN = true) : left.compare right = none := by
  rcases refused with nan | nan
  · rw [eq_notANumber_of_isNaN nan]
    cases right <;> rfl
  · rw [eq_notANumber_of_isNaN nan]
    cases left <;> rfl

/-- A test succeeds when the numbers stand in the order that it asks for. -/
theorem test_iff_compare (comparison : Comparison) (left right : Float) :
    comparison.test left right = true ↔
      left.toModel.unpack.compare right.toModel.unpack = some comparison.order := by
  cases comparison with
  | greaterThan =>
      -- A number is greater when the other one is less, so the operands are exchanged.
      have exchanged := compare_exchanged right.toModel.unpack left.toModel.unpack
      rw [Comparison.test, decide_eq_true_iff, gt_iff_lt, lt_iff_compare, exchanged,
        Option.map_eq_some_iff]
      constructor
      · intro less
        exact ⟨.lt, less, rfl⟩
      · rintro ⟨order, found, swapped⟩
        have less : order = .lt := Ordering.swap_inj.mp swapped
        rw [found, less]
  | lessThan => rw [Comparison.test, decide_eq_true_iff, lt_iff_compare, Comparison.order]
  | equals => rw [Comparison.test, beq_eq_compare, beq_iff_eq, Comparison.order]

/-- Two numbers that are no NaN pass exactly one of the three tests. -/
theorem existsUnique_test {left right : Float} (leftNumber : left.isNaN = false)
    (rightNumber : right.isNaN = false) :
    ∃! comparison : Comparison, comparison.test left right = true := by
  obtain ⟨order, found⟩ : ∃ order,
      left.toModel.unpack.compare right.toModel.unpack = some order :=
    exists_compare leftNumber rightNumber
  obtain ⟨comparison, rfl⟩ := Comparison.exists_order order
  refine ⟨comparison, (test_iff_compare comparison left right).mpr found, ?_⟩
  intro other passed
  have foundOther := (test_iff_compare other left right).mp passed
  exact Comparison.order_injective (Option.some.inj (foundOther.symm.trans found))

/-- A NaN passes no test. -/
theorem test_of_isNaN {left right : Float} (refused : left.isNaN = true ∨ right.isNaN = true)
    (comparison : Comparison) : comparison.test left right = false := by
  have unordered : left.toModel.unpack.compare right.toModel.unpack = none :=
    compare_eq_none refused
  rw [← Bool.not_eq_true, test_iff_compare, unordered]
  exact nofun

end Number

end RegisterMachine
