/-
This file proves that a comparison stores what its test says of the numbers in source order.
After all three comparisons of two operands one flag is set, or none if there is a NaN.
-/

import RegisterMachine.Proofs.Execution.NumberMap
import RegisterMachine.Proofs.Number.Trichotomy

namespace RegisterMachine

/-- A result is stored if its flag holds it and nothing else has changed. -/
structure Processor.Stores (before : Processor) (flag : Flag) (result : Bool)
    (after : Processor) : Prop where
  stored : after.flags.get flag = result
  others : ∀ other, other ≠ flag → after.flags.get other = before.flags.get other
  registers : after.registers = before.registers
  debug : after.debug = before.debug

variable {processor : Processor} {left right : Operand Float} {first second : Float}

/-- An operand has a number if its register exists. -/
theorem Registers.exists_takesIn (registers : Registers) {operand : Operand Float}
    (named : ∀ name ∈ operand.names, Register.isName name = true) :
    ∃ value, registers.TakesIn operand value := by
  have unknown : operand.names.find? (fun name => !Register.isName name) = none := by
    simpa using named
  have read := registers.value_of_find?_names operand
  rw [unknown] at read
  simpa only [Registers.value_eq_ok_iff] using read

/-- A comparison passes on every route to the test of its numbers. -/
theorem Processor.compare_of_takesIn (lefts : processor.registers.TakesIn left first)
    (rights : processor.registers.TakesIn right second)
    (numbers : ∀ value ∈ left.literals ++ right.literals, value.isNaN = false)
    (comparison : Comparison) :
    processor.compare comparison left right = .ok (comparison.test first second) := by
  rw [Processor.compare_of_numbers processor comparison numbers,
    Registers.value_eq_ok_iff.mpr lefts, Registers.value_eq_ok_iff.mpr rights]
  rfl

/-- The flag of a comparison is the only part of the state that it writes. -/
theorem Processor.on_execute_compare (lefts : processor.registers.TakesIn left first)
    (rights : processor.registers.TakesIn right second)
    (numbers : ∀ value ∈ left.literals ++ right.literals, value.isNaN = false)
    (comparison : Comparison) :
    ∃ record? after,
      (Processor.execute (.compare comparison left right)).on processor = (.ok record?, after) ∧
        processor.Stores comparison.flag (comparison.test first second) after := by
  rw [Processor.on_execute, Processor.on_advance_compare,
    Processor.compare_of_takesIn lefts rights numbers]
  refine ⟨_, _, rfl, ?_, ?_, rfl, rfl⟩
  · rw [Flags.get_set, if_pos rfl]
  · intro other different
    rw [Flags.get_set, if_neg different]

/-- Comparisons of the same operands each leave their own result behind, in whatever order. -/
theorem Processor.runSteps_comparisons {program : Program Float} {comparisons : List Comparison}
    (lefts : processor.registers.TakesIn left first)
    (rights : processor.registers.TakesIn right second)
    (numbers : ∀ value ∈ left.literals ++ right.literals, value.isNaN = false)
    (whole : program.map Step.instruction =
      comparisons.map fun comparison => .compare comparison left right) :
    let run := processor.runSteps program
    run.failure? = none ∧ run.processor.registers = processor.registers ∧
      ∀ comparison, run.processor.flags.get comparison.flag =
        if comparison ∈ comparisons then comparison.test first second
        else processor.flags.get comparison.flag := by
  induction comparisons generalizing processor program with
  | nil =>
      obtain rfl := List.map_eq_nil_iff.mp whole
      exact ⟨rfl, rfl, fun comparison => (if_neg List.not_mem_nil).symm⟩
  | cons done comparisons ih =>
      obtain ⟨step, rest, rfl, instruction, later⟩ := List.map_eq_cons_iff.mp whole
      obtain ⟨record?, after, executed, stores⟩ :=
        Processor.on_execute_compare lefts rights numbers done
      rw [← stores.registers] at lefts rights
      change step.instruction = .compare done left right at instruction
      rw [← instruction] at executed
      obtain ⟨succeeded, registers, flags⟩ := ih lefts rights later
      simp only [Processor.runSteps_cons, Processor.step_ok executed, Run.andThen]
      refine ⟨succeeded, registers.trans stores.registers, ?_⟩
      intro comparison
      rw [flags comparison]
      by_cases same : comparison = done
      · subst same
        simp only [stores.stored, ite_self, List.mem_cons_self, if_true]
      · have different : comparison.flag ≠ done.flag :=
          fun equal => same (Comparison.flag_injective equal)
        simp only [stores.others _ different, List.mem_cons, same, false_or]

theorem Comparison.exists_flag (flag : Flag) : ∃ comparison : Comparison, comparison.flag = flag := by
  cases flag with
  | gt => exact ⟨.greaterThan, rfl⟩
  | lt => exact ⟨.lessThan, rfl⟩
  | eq => exact ⟨.equals, rfl⟩

/-- The flipped comparison of the exchanged operands stores the same in its own flag. -/
theorem Processor.get_execute_flipped (lefts : processor.registers.TakesIn left first)
    (rights : processor.registers.TakesIn right second)
    (numbers : ∀ value ∈ left.literals ++ right.literals, value.isNaN = false)
    (comparison : Comparison) :
    ((Processor.execute (.compare comparison left right)).on processor).2.flags.get
        comparison.flag =
      ((Processor.execute (.compare comparison.flipped right left)).on processor).2.flags.get
        comparison.flipped.flag := by
  have exchanged : ∀ value ∈ right.literals ++ left.literals, value.isNaN = false :=
    fun value member => numbers value (List.mem_append.mpr (List.mem_append.mp member).symm)
  obtain ⟨_, _, executed, stores⟩ := Processor.on_execute_compare lefts rights numbers comparison
  obtain ⟨_, _, executedOther, storesOther⟩ :=
    Processor.on_execute_compare rights lefts exchanged comparison.flipped
  rw [executed, executedOther, stores.stored, storesOther.stored, Number.test_flipped]

/-- After all three comparisons each flag holds the result of its own test. -/
theorem Processor.run_comparisons {program : Program Float} {comparisons : List Comparison}
    (lefts : processor.registers.TakesIn left first)
    (rights : processor.registers.TakesIn right second)
    (numbers : ∀ value ∈ left.literals ++ right.literals, value.isNaN = false)
    (complete : ∀ comparison, comparison ∈ comparisons)
    (whole : program.map Step.instruction =
      comparisons.map fun comparison => .compare comparison left right) :
    let run := processor.run program
    run.failure? = none ∧ run.processor.registers = processor.registers ∧
      ∀ comparison : Comparison,
        run.processor.flags.get comparison.flag = comparison.test first second := by
  intro run
  have agrees := processor.run_agrees program
  obtain ⟨succeeded, registers, flags⟩ :=
    Processor.runSteps_comparisons lefts rights numbers whole
  refine ⟨agrees.failure?.trans succeeded, ?_, ?_⟩
  · rw [agrees.processor, registers]
  · intro comparison
    rw [agrees.processor, flags comparison, if_pos (complete comparison)]

/-- Flags that hold the results of the three tests of two numbers have exactly one set. -/
theorem Flags.existsUnique_get {flags : Flags}
    (stored : ∀ comparison : Comparison, flags.get comparison.flag = comparison.test first second)
    (firstNumber : first.isNaN = false) (secondNumber : second.isNaN = false) :
    ∃! flag, flags.get flag = true := by
  obtain ⟨related, passed, unique⟩ := Number.existsUnique_test firstNumber secondNumber
  refine ⟨related.flag, (stored related).trans passed, ?_⟩
  intro flag set
  obtain ⟨other, rfl⟩ := Comparison.exists_flag flag
  rw [unique other ((stored other).symm.trans set)]

/-- A comparison whose registers exist and whose literals are no NaN stores the test of its numbers,
and the flipped comparison of the exchanged operands stores the same.  After all three comparisons,
in whatever order, exactly one flag is set, and none if one of the numbers is a NaN. -/
theorem Processor.execute_comparisons (processor : Processor) {left right : Operand Float}
    (named : ∀ name ∈ left.names ++ right.names, Register.isName name = true)
    (numbers : ∀ value ∈ left.literals ++ right.literals, value.isNaN = false) :
    ∃ first second, processor.registers.TakesIn left first ∧
      processor.registers.TakesIn right second ∧
      (∀ comparison, ∃ record? after,
        (Processor.execute (.compare comparison left right)).on processor = (.ok record?, after) ∧
          processor.Stores comparison.flag (comparison.test first second) after) ∧
      (∀ comparison : Comparison,
        ((Processor.execute (.compare comparison left right)).on processor).2.flags.get
            comparison.flag =
          ((Processor.execute (.compare comparison.flipped right left)).on processor).2.flags.get
            comparison.flipped.flag) ∧
      ∀ (comparisons : List Comparison) (program : Program Float),
        (∀ comparison, comparison ∈ comparisons) →
        program.map Step.instruction =
          comparisons.map (fun comparison => .compare comparison left right) →
        let run := processor.run program
        run.failure? = none ∧ run.processor.registers = processor.registers ∧
          (first.isNaN = false ∧ second.isNaN = false →
            ∃! flag, run.processor.flags.get flag = true) ∧
          (first.isNaN = true ∨ second.isNaN = true →
            ∀ flag, run.processor.flags.get flag = false) := by
  obtain ⟨first, lefts⟩ := processor.registers.exists_takesIn fun name member =>
    named name (List.mem_append_left _ member)
  obtain ⟨second, rights⟩ := processor.registers.exists_takesIn fun name member =>
    named name (List.mem_append_right _ member)
  refine ⟨first, second, lefts, rights, Processor.on_execute_compare lefts rights numbers,
    Processor.get_execute_flipped lefts rights numbers, ?_⟩
  intro comparisons program complete whole run
  obtain ⟨succeeded, registers, stored⟩ :=
    Processor.run_comparisons lefts rights numbers complete whole
  refine ⟨succeeded, registers, ?_, ?_⟩
  · rintro ⟨firstNumber, secondNumber⟩
    exact Flags.existsUnique_get stored firstNumber secondNumber
  · intro refused flag
    obtain ⟨comparison, rfl⟩ := Comparison.exists_flag flag
    rw [stored comparison, Number.test_of_isNaN refused]

/-- The sample asks from the side of a literal how it relates to a register. -/
def Program.comparingSample : Program Float :=
  [Comparison.equals, .greaterThan, .lessThan].map fun comparison =>
    ⟨1, .compare comparison (.literal 2) (.register "b")⟩

theorem Processor.execute_comparisons_sample :
    let processor : Processor := ⟨Registers.zero.set .b 3, { gt := true }, true⟩
    let run := processor.run Program.comparingSample
    run.failure? = none ∧ (∃! flag, run.processor.flags.get flag = true) ∧
      run.processor.flags = { lt := true } := by
  intro processor run
  obtain ⟨first, second, lefts, rights, -, -, runs⟩ :=
    @Processor.execute_comparisons processor (.literal 2) (.register "b")
      (by decide) (by decide +kernel)
  have firstNumber : first = 2 := lefts.symm
  have secondNumber : second = 3 := rights.unique ⟨.b, rfl, by decide +kernel⟩
  subst firstNumber secondNumber
  have complete : ∀ comparison : Comparison,
      comparison ∈ [Comparison.equals, .greaterThan, .lessThan] := by
    rintro (_ | _ | _) <;> decide
  obtain ⟨succeeded, -, single, -⟩ := runs _ Program.comparingSample complete rfl
  refine ⟨succeeded, single (by decide +kernel), ?_⟩
  decide +kernel

end RegisterMachine
