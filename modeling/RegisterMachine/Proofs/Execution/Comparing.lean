/-
This file proves that the four routes of a comparison have one outcome.
The names are looked up before the literals are checked, and the numbers are tested in the order
of the source.
-/

import RegisterMachine.Proofs.Execution.Outcome
import RegisterMachine.Proofs.Number.Alike

namespace RegisterMachine
open Number

/-- The outcome of a comparison depends on the numbers of its operands and on nothing else.
A NaN is refused only if it is a literal. -/
def Registers.outcome (registers : Registers) (comparison : Comparison)
    (left right : Operand Float) : Except RegisterError Bool := do
  let first ← registers.value left
  let second ← registers.value right
  match (left.literals ++ right.literals).find? Float.isNaN with
  | some refused => .error (.notANumber refused)
  | none => .ok (comparison.test first second)

/-- A literal is tested as it stands once its check has passed. -/
theorem Registers.validate_bind {Value : Type} (value : Float)
    (next : Float → Except RegisterError Value) :
    (Registers.validate value >>= next) =
      if value.isNaN then .error (.notANumber value) else next value := by
  rw [Registers.validate]
  cases value.isNaN <;> rfl

/-- The route of a comparison does not matter, not even where it exchanges the numbers. -/
theorem Processor.compare_eq (processor : Processor) (comparison : Comparison)
    (left right : Operand Float) :
    processor.compare comparison left right =
      processor.registers.outcome comparison left right := by
  cases left with
  | register name =>
      cases right with
      | register other => rfl
      | literal value =>
          simp only [Processor.compare, Registers.compareRegisterValue, Registers.validate_bind,
            Registers.outcome, Registers.value, Operand.literals, List.nil_append, List.find?_cons]
          cases processor.registers.read name with
          | error error => rfl
          | ok first => cases value.isNaN <;> rfl
  | literal value =>
      cases right with
      | register name =>
          simp only [Processor.compare, Registers.compareRegisterValue, Registers.validate_bind,
            Registers.outcome, Registers.value, Operand.literals, List.append_nil, List.find?_cons,
            test_flipped]
          cases processor.registers.read name with
          | error error => rfl
          | ok second => cases value.isNaN <;> rfl
      | literal other =>
          simp only [Processor.compare, Registers.compareValues, Registers.validate_bind,
            Registers.outcome, Registers.value, Operand.literals, List.singleton_append,
            List.find?_cons]
          cases value.isNaN <;> cases other.isNaN <;> rfl

/-- Without a NaN among its literals, a comparison fails only where it reads its operands. -/
theorem Processor.compare_of_numbers (processor : Processor) (comparison : Comparison)
    {left right : Operand Float}
    (numbers : ∀ value ∈ left.literals ++ right.literals, value.isNaN = false) :
    processor.compare comparison left right = do
      let first ← processor.registers.value left
      let second ← processor.registers.value right
      return comparison.test first second := by
  have accepted : (left.literals ++ right.literals).find? Float.isNaN = none := by
    rw [List.find?_eq_none]
    intro value member
    rw [numbers value member]
    exact Bool.false_ne_true
  rw [Processor.compare_eq, Registers.outcome, accepted]
  rfl

end RegisterMachine
