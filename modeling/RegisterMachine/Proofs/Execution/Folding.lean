/-
This file proves that a register operand can be folded into the number that it holds.
A program can be folded at any of its positions, for the state in which it is then run.
-/

import RegisterMachine.Proofs.Execution.Comparing
import RegisterMachine.Proofs.Execution.Fault
import RegisterMachine.Proofs.Execution.Silence

namespace RegisterMachine

/-- An operand stays as it is, or the number of its register takes its place. -/
inductive Operand.Folds (registers : Registers) : Operand Float → Operand Float → Prop where
  | kept (operand : Operand Float) : Operand.Folds registers operand operand
  | folded {name : String} {register : Register} {value : Float}
      (known : Register.ofName? name = some register) (held : registers.get register = value) :
      Operand.Folds registers (.register name) (.literal value)

/-- A move folds into a load, and other instructions keep their form and fold their operands. -/
inductive Instruction.Folds (registers : Registers) :
    Instruction Float → Instruction Float → Prop where
  | kept (instruction : Instruction Float) : Instruction.Folds registers instruction instruction
  | move {source : String} {register : Register} {value : Float}
      (known : Register.ofName? source = some register) (held : registers.get register = value)
      (destination : String) :
      Instruction.Folds registers (.move source destination) (.load destination value)
  | add (register : String) {operand other : Operand Float}
      (operands : operand.Folds registers other) :
      Instruction.Folds registers (.add register operand) (.add register other)
  | subtract (register : String) {operand other : Operand Float}
      (operands : operand.Folds registers other) :
      Instruction.Folds registers (.subtract register operand) (.subtract register other)
  | compare (comparison : Comparison) {left right leftOther rightOther : Operand Float}
      (lefts : left.Folds registers leftOther) (rights : right.Folds registers rightOther) :
      Instruction.Folds registers (.compare comparison left right)
        (.compare comparison leftOther rightOther)

/-- Each step folds in the state in which the program that is not folded executes it. -/
inductive Program.Folds : Processor → Program Float → Program Float → Prop where
  | nil (processor : Processor) : Program.Folds processor [] []
  | cons {processor : Processor} {step other : Step Float} {rest restOther : Program Float}
      (line : step.line = other.line)
      (instructions : step.instruction.Folds processor.registers other.instruction)
      (later : Program.Folds (processor.step step).processor rest restOther) :
      Program.Folds processor (step :: rest) (other :: restOther)

/-- An operand reads a number if it names no register that holds a NaN. -/
def Operand.ReadsNumber (registers : Registers) (operand : Operand Float) : Prop :=
  ∀ name ∈ operand.names, ∀ register ∈ Register.ofName? name,
    (registers.get register).isNaN = false

instance (registers : Registers) : DecidablePred (Operand.ReadsNumber registers) :=
  fun operand => inferInstanceAs (Decidable (∀ name ∈ operand.names, _))

/-- Only comparisons accept a NaN from a register, so only they have to be asked. -/
def Instruction.ComparesNumbers (registers : Registers) : Instruction Float → Prop
  | .compare _ left right => left.ReadsNumber registers ∧ right.ReadsNumber registers
  | _ => True

instance (registers : Registers) : DecidablePred (Instruction.ComparesNumbers registers)
  | .compare _ left right =>
      inferInstanceAs (Decidable (left.ReadsNumber registers ∧ right.ReadsNumber registers))
  | .load _ _ | .move _ _ | .increment _ | .decrement _ | .add _ _ | .subtract _ _ | .out _ =>
      inferInstanceAs (Decidable True)

/-- Each comparison that a run executes compares numbers in the state in which it is executed. -/
def Processor.ComparesNumbers (processor : Processor) : Program Float → Prop
  | [] => True
  | step :: rest => step.instruction.ComparesNumbers processor.registers ∧
      ((processor.step step).failure?.isNone → (processor.step step).processor.ComparesNumbers rest)

instance decidableComparesNumbers (processor : Processor) :
    DecidablePred processor.ComparesNumbers
  | [] => inferInstanceAs (Decidable True)
  | step :: rest =>
      have := decidableComparesNumbers (processor.step step).processor rest
      inferInstanceAs (Decidable (_ ∧ (_ → _)))

variable {processor : Processor} {registers : Registers}

/-- Folding does not change the number of an operand. -/
theorem Operand.Folds.value_eq {operand other : Operand Float}
    (operands : operand.Folds registers other) :
    registers.value other = registers.value operand := by
  cases operands with
  | kept => rfl
  | folded known held =>
      subst held
      rw [Registers.value, Registers.value, Registers.read_eq, known]

/-- A folded operand adds no NaN to the literals. -/
theorem Operand.Folds.find?_literals {operand other : Operand Float}
    (operands : operand.Folds registers other) (number : operand.ReadsNumber registers) :
    other.literals.find? Float.isNaN = operand.literals.find? Float.isNaN := by
  cases operands with
  | kept => rfl
  | folded known held =>
      subst held
      have number := number _ List.mem_cons_self _ known
      simp only [Operand.literals, List.find?_cons, number, List.find?_nil]

theorem Registers.outcome_of_folds {left right leftOther rightOther : Operand Float}
    (lefts : left.Folds registers leftOther) (rights : right.Folds registers rightOther)
    (comparison : Comparison)
    (numbers : (Instruction.compare comparison left right).ComparesNumbers registers) :
    registers.outcome comparison leftOther rightOther =
      registers.outcome comparison left right := by
  obtain ⟨left, right⟩ := numbers
  rw [Registers.outcome, Registers.outcome, lefts.value_eq, rights.value_eq, List.find?_append,
    List.find?_append, lefts.find?_literals left, rights.find?_literals right]

/-- A folded instruction leads to the same result and the same state. -/
theorem Processor.on_advance_of_folds {instruction other : Instruction Float}
    (instructions : instruction.Folds processor.registers other)
    (numbers : instruction.ComparesNumbers processor.registers) :
    (Processor.advance other).on processor = (Processor.advance instruction).on processor := by
  cases instructions with
  | kept => rfl
  | move known held destination =>
      subst held
      rw [Processor.on_advance_move, Registers.value, Registers.read_eq, known]
      rfl
  | add register operands =>
      rw [Processor.on_advance_add, Processor.on_advance_add, operands.value_eq]
  | subtract register operands =>
      rw [Processor.on_advance_subtract, Processor.on_advance_subtract, operands.value_eq]
  | compare comparison lefts rights =>
      rw [Processor.on_advance_compare, Processor.on_advance_compare, Processor.compare_eq,
        Processor.compare_eq, Registers.outcome_of_folds lefts rights comparison numbers]

/-- Only debug mode would show that an instruction was folded. -/
theorem Processor.report?_of_folds {instruction other : Instruction Float}
    (silent : processor.debug = false) (instructions : instruction.Folds registers other) :
    processor.report? other = processor.report? instruction := by
  cases instructions with
  | kept => rfl
  | move | add | subtract | compare => simp only [Processor.report?, silent, Bool.false_eq_true,
      if_false]

theorem Processor.on_execute_of_folds {instruction other : Instruction Float}
    (silent : processor.debug = false)
    (instructions : instruction.Folds processor.registers other)
    (numbers : instruction.ComparesNumbers processor.registers) :
    (Processor.execute other).on processor = (Processor.execute instruction).on processor := by
  have kept := Processor.debug_of_on_advance instruction processor
  rw [Processor.on_execute, Processor.on_execute,
    Processor.on_advance_of_folds instructions numbers]
  generalize (Processor.advance instruction).on processor = outcome at kept ⊢
  obtain ⟨error | value, after⟩ := outcome
  · rfl
  · simp only [Processor.report?_of_folds (kept.trans silent) instructions]

/-- A run of steps that succeeds stays the same when the steps are folded. -/
theorem Processor.runSteps_of_folds {program other : Program Float}
    (silent : processor.debug = false) (folds : Program.Folds processor program other)
    (succeeded : (processor.runSteps program).failure? = none)
    (numbers : processor.ComparesNumbers program) :
    (processor.runSteps other).Agrees (processor.runSteps program) := by
  induction folds with
  | nil => exact ⟨rfl, rfl, rfl⟩
  | @cons processor step other rest restOther line instructions later ih =>
      obtain ⟨comparesNumbers, numbers⟩ := numbers
      have same := Processor.on_execute_of_folds silent instructions comparesNumbers
      rcases executed : (Processor.execute step.instruction).on processor with
        ⟨error | record?, after⟩
      · rw [Processor.runSteps_cons, Processor.step_error executed] at succeeded
        cases succeeded
      · have executedOther := same.trans executed
        have first := Processor.step_ok executed
        have firstOther := Processor.step_ok executedOther
        have debug := (processor.debug_step step).trans silent
        simp only [Processor.runSteps_cons, first, Run.andThen] at succeeded
        simp only [first] at ih numbers debug
        have agrees := ih debug succeeded (numbers rfl)
        constructor
        · simp only [Processor.runSteps_cons, first, firstOther, Run.andThen, agrees.processor]
        · rw [Processor.records_runSteps_cons executed,
            Processor.records_runSteps_cons executedOther, agrees.records]
        · simp only [Processor.runSteps_cons, first, firstOther, Run.andThen, agrees.failure?]

/-- Folding keeps a run that succeeds, if debug is off and the run compares only numbers.
The folded program succeeds too, with the same registers, the same flags and the same records. -/
theorem Processor.run_folded {program other : Program Float}
    (silent : processor.debug = false) (succeeded : (processor.run program).failure? = none)
    (numbers : processor.ComparesNumbers program)
    (folds : Program.Folds processor program other) :
    let run := processor.run program
    let foldedRun := processor.run other
    foldedRun.failure? = none ∧
      foldedRun.processor.registers = run.processor.registers ∧
      foldedRun.processor.flags = run.processor.flags ∧
      foldedRun.records = run.records := by
  intro run foldedRun
  have agrees := processor.run_agrees program
  have steps := Processor.runSteps_of_folds silent folds (agrees.failure?.symm.trans succeeded)
    numbers
  have same : foldedRun.Agrees run := ((processor.run_agrees other).trans steps).trans agrees.symm
  exact ⟨same.failure?.trans succeeded, congrArg Processor.registers same.processor,
    congrArg Processor.flags same.processor, same.records⟩

/-- The third register of the sample is infinite. -/
def Processor.foldingSample : Processor :=
  ⟨Registers.zero.set .c (1 / 0), {}, false⟩

/-- The sample adds a register to itself and compares in all the ways. -/
def Program.foldingSample : Program Float :=
  [⟨1, .load "a" 5⟩, ⟨2, .move "a" "b"⟩, ⟨3, .add "a" (.register "a")⟩,
    ⟨4, .compare .greaterThan (.register "c") (.register "a")⟩,
    ⟨5, .compare .lessThan (.literal 6) (.register "b")⟩, ⟨6, .subtract "b" (.register "a")⟩,
    ⟨7, .compare .equals (.register "b") (.register "a")⟩, ⟨8, .out (.flag "GT")⟩,
    ⟨9, .out (.register "b")⟩]

/-- Each of the sample's comparisons is folded in another way. -/
def Program.foldedSample : Program Float :=
  [⟨1, .load "a" 5⟩, ⟨2, .load "b" 5⟩, ⟨3, .add "a" (.literal 5)⟩,
    ⟨4, .compare .greaterThan (.literal (1 / 0)) (.literal 10)⟩,
    ⟨5, .compare .lessThan (.literal 6) (.literal 5)⟩, ⟨6, .subtract "b" (.register "a")⟩,
    ⟨7, .compare .equals (.literal (-5)) (.register "a")⟩, ⟨8, .out (.flag "GT")⟩,
    ⟨9, .out (.register "b")⟩]

theorem Program.folds_foldedSample :
    Program.Folds Processor.foldingSample Program.foldingSample Program.foldedSample := by
  have a : Register.ofName? "a" = some .a := by decide
  have b : Register.ofName? "b" = some .b := by decide
  have c : Register.ofName? "c" = some .c := by decide
  refine .cons rfl (.kept _) <| .cons rfl (.move a ?_ "b") <| .cons rfl (.add "a" (.folded a ?_)) <|
    .cons rfl (.compare _ (.folded c ?_) (.folded a ?_)) <|
    .cons rfl (.compare _ (.kept _) (.folded b ?_)) <| .cons rfl (.kept _) <|
    .cons rfl (.compare _ (.folded b ?_) (.kept _)) <| .cons rfl (.kept _) <|
    .cons rfl (.kept _) <| .nil _
  all_goals decide +kernel

theorem Processor.run_folded_sample :
    let foldedRun := Processor.foldingSample.run Program.foldedSample
    foldedRun.failure? = none ∧
      foldedRun.processor.registers.get .b = -5 ∧
      foldedRun.processor.flags = { gt := true } ∧
      foldedRun.records = [⟨.log, "true"⟩, ⟨.log, "-5"⟩] := by
  intro foldedRun
  have succeeded : (Processor.foldingSample.run Program.foldingSample).failure? = none := by
    rw [← Option.isNone_iff_eq_none]
    decide +kernel
  have numbers : Processor.foldingSample.ComparesNumbers Program.foldingSample := by
    decide +kernel
  obtain ⟨passed, registers, flags, records⟩ :=
    Processor.run_folded rfl succeeded numbers Program.folds_foldedSample
  refine ⟨passed, ?_, flags.trans ?_, records.trans ?_⟩
  · rw [registers]
    decide +kernel
  · decide +kernel
  · decide +kernel

end RegisterMachine
