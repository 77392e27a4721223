/-
This file proves that a program depends only on the registers that it names.
A name that denotes no register names nothing, and the program fails on it in every state alike.
-/

import RegisterMachine.Proofs.Execution.Correspondence
import RegisterMachine.Proofs.Execution.Frame

namespace RegisterMachine

/-- The names of a program are those of its instructions, of outputs too. -/
def Program.names {Value : Type} (program : Program Value) : List String :=
  program.flatMap fun step => step.instruction.names

/-- Every operation on numbers keeps equality. -/
theorem Number.congruence_eq : Number.Congruence Eq where
  one := rfl
  add := by
    rintro left right _ _ rfl rfl
    rfl
  sub := by
    rintro left right _ _ rfl rfl
    rfl
  isNaN_eq := by
    rintro value _ rfl
    rfl
  test_eq := by
    rintro left right _ _ rfl rfl comparison
    rfl
  plain_eq := by
    rintro value _ rfl
    rfl

theorem Operand.corresponds_eq_iff {operand other : Operand Float} :
    operand.Corresponds Eq other ↔ operand = other := by
  constructor
  · rintro (name | same)
    · rfl
    · rw [same]
  · rintro rfl
    cases operand with
    | register name => exact .register name
    | literal value => exact .literal rfl

/-- Instructions with equal literals are the same. -/
theorem Instruction.corresponds_eq_iff {instruction other : Instruction Float} :
    instruction.Corresponds Eq other ↔ instruction = other := by
  constructor
  · intro instructions
    cases instructions with
    | load register same => rw [same]
    | add register operands | subtract register operands =>
        rw [Operand.corresponds_eq_iff.mp operands]
    | compare comparison lefts rights =>
        rw [Operand.corresponds_eq_iff.mp lefts, Operand.corresponds_eq_iff.mp rights]
    | move | increment | decrement | out => rfl
  · rintro rfl
    have self (operand : Operand Float) : operand.Corresponds Eq operand :=
      Operand.corresponds_eq_iff.mpr rfl
    cases instruction with
    | load register value => exact .load register rfl
    | move source destination => exact .move source destination
    | increment register => exact .increment register
    | decrement register => exact .decrement register
    | add register operand => exact .add register (self operand)
    | subtract register operand => exact .subtract register (self operand)
    | compare comparison left right => exact .compare comparison (self left) (self right)
    | out emission => exact .out emission

theorem Step.corresponds_eq_iff {step other : Step Float} :
    step.Corresponds Eq other ↔ step = other := by
  constructor
  · rintro ⟨line, instruction⟩
    cases step
    cases other
    rw [Step.mk.injEq]
    exact ⟨line, Instruction.corresponds_eq_iff.mp instruction⟩
  · rintro rfl
    exact ⟨rfl, Instruction.corresponds_eq_iff.mpr rfl⟩

theorem RegisterError.Corresponds.eq {error other : RegisterError}
    (errors : error.Corresponds Eq other) : error = other := by
  cases errors with
  | unknownRegister name => rfl
  | notANumber same => exact congrArg RegisterError.notANumber same

/-- Failures of equal steps with equal numbers are the same. -/
theorem Failure.Corresponds.eq {first second : Failure} (failures : first.Corresponds Eq second) :
    first = second := by
  obtain ⟨step, error⟩ := failures
  cases first
  cases second
  rw [Failure.mk.injEq]
  exact ⟨Step.corresponds_eq_iff.mp step, error.eq⟩

theorem ResultsCorrespond.eq {Value : Type} {first second : Except RegisterError Value}
    (results : ResultsCorrespond Eq Eq first second) : first = second := by
  cases results with
  | ok same => exact congrArg Except.ok same
  | error errors => exact congrArg Except.error errors.eq

theorem Program.corresponds_self (program : Program Float) :
    List.Forall₂ (Step.Corresponds Eq) program program :=
  List.forall₂_same.mpr fun _ _ => Step.corresponds_eq_iff.mpr rfl

/-- A register that a program does not name keeps its number through every run. -/
theorem Processor.get_run_of_not_named {program : Program Float} {register : Register}
    (unnamed : register.name ∉ program.names) (processor : Processor) :
    (processor.run program).processor.registers.get register =
      processor.registers.get register := by
  rw [(processor.run_agrees program).processor]
  apply Processor.get_runSteps_of_ne
  intro step member written
  exact unnamed (List.mem_flatMap.mpr
    ⟨step, member, Instruction.mem_names_of_destination? written⟩)

/-- Two runs of a program start in states that differ at most in registers which it does not name.
Both succeed or fail at the same step with the same error, and they hand out the same records.
In the end the flags and the named registers are the same, and no other register has changed. -/
theorem Processor.run_named {first second : Processor} {program : Program Float}
    (registers : ∀ register : Register, register.name ∈ program.names →
      first.registers.get register = second.registers.get register)
    (flags : first.flags = second.flags) (debug : first.debug = second.debug) :
    let run := first.run program
    let otherRun := second.run program
    run.failure? = otherRun.failure? ∧
      first.firstFailure? program = second.firstFailure? program ∧
      run.records = otherRun.records ∧
      run.processor.flags = otherRun.processor.flags ∧
      (∀ register : Register, register.name ∈ program.names →
        run.processor.registers.get register = otherRun.processor.registers.get register) ∧
      ∀ register : Register, register.name ∉ program.names →
        run.processor.registers.get register = first.registers.get register ∧
          otherRun.processor.registers.get register = second.registers.get register := by
  intro run otherRun
  have processors : first.Corresponds Eq (· ∈ program.names) second := ⟨registers, flags, debug⟩
  have steps := Program.corresponds_self program
  have mentioned : ∀ step ∈ program, ∀ name ∈ step.instruction.names, name ∈ program.names :=
    fun step member name among => List.mem_flatMap.mpr ⟨step, member, among⟩
  have runs := processors.run Number.congruence_eq steps mentioned
  have positions := processors.firstFailure?_eq Number.congruence_eq steps mentioned
  have failures : run.failure? = otherRun.failure? := by
    have ends : Option.Rel (Failure.Corresponds Eq) run.failure? otherRun.failure? := runs.failure?
    generalize run.failure? = failed at ends ⊢
    generalize otherRun.failure? = failedOther at ends ⊢
    cases ends with
    | none => rfl
    | some same => rw [same.eq]
  refine ⟨failures, positions, runs.records, runs.processor.flags,
    fun register named => runs.processor.registers register named, ?_⟩
  intro register unnamed
  exact ⟨first.get_run_of_not_named unnamed, second.get_run_of_not_named unnamed⟩

/-- The sample names three registers and three names that denote none. -/
def Program.namingSample : Program Float :=
  [⟨1, .add "c" (.register "a")⟩, ⟨2, .out (.register "ab")⟩, ⟨3, .out (.register "b")⟩,
    ⟨4, .compare .lessThan (.register "c") (.literal 4)⟩, ⟨5, .move "" "d"⟩, ⟨6, .load "q" 1⟩]

/-- The registers of the sample hold small numbers, and the last one holds the given number. -/
def Processor.namingSample (last : Float) : Processor :=
  ⟨((Registers.zero.set .a 3).set .b 2).set .n last, {}, false⟩

theorem Processor.run_named_sample :
    let run := (Processor.namingSample (0 / 0)).run Program.namingSample
    let otherRun := (Processor.namingSample (1 / 0)).run Program.namingSample
    run.failure?.map Failure.context = some "Failed to execute `mov $, $d` on line 5" ∧
      otherRun.records = [⟨.error, "Unknown register 'ab'."⟩, ⟨.log, "2"⟩] ∧
      otherRun.processor.flags = { lt := true } ∧
      otherRun.processor.registers.get .c = 3 ∧
      (run.processor.registers.get .n).isNaN ∧ otherRun.processor.registers.get .n = 1 / 0 := by
  intro run otherRun
  have registers (register : Register) (named : register.name ∈ Program.namingSample.names) :
      (Processor.namingSample (0 / 0)).registers.get register =
        (Processor.namingSample (1 / 0)).registers.get register := by
    have other : register ≠ .n := by
      rintro rfl
      exact absurd named (by decide)
    simp only [Processor.namingSample, Registers.get_set_of_ne _ other]
  obtain ⟨failures, -, records, flags, named, unnamed⟩ :=
    Processor.run_named registers (by decide) (by decide)
  obtain ⟨kept, keptOther⟩ := unnamed .n (by decide)
  refine ⟨?_, records.symm.trans ?_, flags.symm.trans ?_, (named .c (by decide)).symm.trans ?_, ?_,
    keptOther⟩
  · decide +kernel
  · decide +kernel
  · decide +kernel
  · decide +kernel
  · rw [kept]
    decide +kernel

end RegisterMachine
