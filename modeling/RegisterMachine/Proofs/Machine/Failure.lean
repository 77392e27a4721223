/-
This file proves when the runs of a machine fail, in all states that the machine can reach.
The program stays the one that was built, so no literal in it is ever a NaN.
-/

import RegisterMachine.Machine
import RegisterMachine.Proofs.Execution.Fault
import RegisterMachine.Proofs.Number.Sign

namespace RegisterMachine

/-- The next run of a machine attempts a step in a state if it gets that far. -/
def Machine.Attempts {Kept : Type} (machine : Machine Kept) (step : Step Float)
    (before : Processor) : Prop :=
  machine.processor.Meets machine.program step before

theorem Machine.Attempts.mem_program {Kept : Type} {machine : Machine Kept} {step : Step Float}
    {before : Processor} (attempts : machine.Attempts step before) :
    step ∈ machine.program := by
  obtain ⟨earlier, later, same, -, -⟩ := attempts
  rw [same]
  exact List.mem_append_right earlier List.mem_cons_self

variable {Kept : Type} [Sink Kept]

/-- A machine is reached from a source by runs, resets and changes of the debug setting. -/
inductive Machine.Reached (source : String) : Machine Kept → Prop where
  | built (sink : Kept) : Machine.Reached source (Machine.ofSource source sink)
  | run {machine : Machine Kept} (reached : Machine.Reached source machine) :
      Machine.Reached source machine.run.2
  | reset {machine : Machine Kept} (reached : Machine.Reached source machine) :
      Machine.Reached source machine.reset
  | withDebug {machine : Machine Kept} (reached : Machine.Reached source machine)
      (debug : Bool) : Machine.Reached source (machine.withDebug debug)

/-- A step fails by the rules if only a name or a NaN in its source can make it fail.
An instruction that hands something out never fails, and a literal is never refused. -/
structure Processor.FailsByRules (before : Processor) (step : Step Float) : Prop where
  unknownRegister : (∃ name, before.FailsWith step (.unknownRegister name)) ↔
    step.instruction.opcode ≠ .out ∧
      ∃ name ∈ step.instruction.names, Register.isName name = false
  firstUnknown : ∀ name, before.FailsWith step (.unknownRegister name) ↔
    step.instruction.opcode ≠ .out ∧
      (step.instruction.names.find? fun name => !Register.isName name) = some name
  notANumber : ∀ value, before.FailsWith step (.notANumber value) ↔
    (∀ name ∈ step.instruction.names, Register.isName name) ∧
      ∃ source register, step.instruction.source? = some source ∧
        Register.ofName? source = some register ∧ before.registers.get register = value ∧
          value.isNaN
  accepted : step.instruction.opcode ∉ [.move, .add, .subtract] ∨
    step.instruction.literals ≠ [] → ∀ value, ¬before.FailsWith step (.notANumber value)

theorem Instruction.source?_eq_none {Value : Type} {instruction : Instruction Value}
    (other : instruction.opcode ∉ [.move, .add, .subtract] ∨ instruction.literals ≠ []) :
    instruction.source? = none := by
  cases instruction with
  | move source destination => simp [Instruction.opcode, Instruction.literals] at other
  | add register operand | subtract register operand =>
      cases operand with
      | register source =>
          simp [Instruction.opcode, Instruction.literals, Operand.literals] at other
      | literal value => rfl
  | load | increment | decrement | compare | out => rfl

theorem Processor.failsByRules {step : Step Float}
    (numbers : ∀ value ∈ step.instruction.literals, value.isNaN = false) (before : Processor) :
    before.FailsByRules step where
  unknownRegister := by
    simp only [Processor.failsWith_unknownRegister_iff numbers, exists_and_left,
      ← Option.isSome_iff_exists, List.find?_isSome, Bool.not_eq_true']
  firstUnknown := Processor.failsWith_unknownRegister_iff numbers before
  notANumber := Processor.failsWith_notANumber_iff numbers before
  accepted := by
    intro other value fails
    obtain ⟨-, source, -, taken, -⟩ :=
      (Processor.failsWith_notANumber_iff numbers before value).mp fails
    rw [Instruction.source?_eq_none other] at taken
    cases taken

theorem Machine.Reached.program_eq {source : String} {machine : Machine Kept}
    (reached : Machine.Reached source machine) : machine.program = Program.ofSource source := by
  induction reached with
  | built sink => rfl
  | run reached ih => exact ih
  | reset reached ih => exact ih
  | withDebug reached debug ih => exact ih

/-- Every number in the program of a source is the number of a literal. -/
theorem Program.not_isNaN_of_mem_literals {source : String} {step : Step Float}
    (member : step ∈ Program.ofSource source) :
    ∀ value ∈ step.instruction.literals, value.isNaN = false := by
  obtain ⟨spelled, -, rfl⟩ := List.mem_map.mp member
  intro value among
  rw [Step.map, Instruction.literals_map] at among
  obtain ⟨literal, -, rfl⟩ := List.mem_map.mp among
  exact literal.isNaN_toFloat

/-- A run of a machine fails exactly when it attempts a step that fails, and every attempted step
fails by the rules.  No literal is a NaN, however many digits it has. -/
theorem Machine.run_fails_iff {source : String} {machine : Machine Kept}
    (reached : Machine.Reached source machine) :
    (∀ failure, machine.run.1 = some failure ↔
        ∃ before, machine.Attempts failure.step before ∧
          before.FailsWith failure.step failure.error) ∧
      (∀ step before, machine.Attempts step before → before.FailsByRules step) ∧
      ∀ literal : Literal, literal.toFloat.isNaN = false := by
  refine ⟨?_, ?_, Literal.isNaN_toFloat⟩
  · intro failure
    change (machine.processor.run machine.program).failure? = some failure ↔ _
    rw [(machine.processor.run_agrees machine.program).failure?]
    exact machine.processor.failure?_runSteps_iff machine.program failure
  · intro step before attempts
    have member := attempts.mem_program
    rw [reached.program_eq] at member
    exact Processor.failsByRules (Program.not_isNaN_of_mem_literals member) before

/-- The sample moves a number into a register that does not exist. -/
def Source.unknownSample : String :=
  "lod $a, !1\nmov $a, $q\nout $a"

theorem Machine.run_fails_iff_unknownSample :
    let machine := (Machine.ofSource Source.unknownSample Buffer.empty).run.2.reset
    Machine.Reached Source.unknownSample machine ∧
      ∃ failure before, machine.run.1 = some failure ∧
        failure.context = "Failed to execute `mov $a, $q` on line 2" ∧
        machine.Attempts failure.step before ∧ failure.error = .unknownRegister "q" := by
  intro machine
  have reached : Machine.Reached Source.unknownSample machine := .reset (.run (.built _))
  have shown : machine.run.1.map (fun failure =>
      (failure.context, failure.step.instruction.names)) =
        some ("Failed to execute `mov $a, $q` on line 2", ["a", "q"]) := by
    decide +kernel
  obtain ⟨failure, failed, shown⟩ := Option.map_eq_some_iff.mp shown
  obtain ⟨context, names⟩ := Prod.mk.inj shown
  obtain ⟨runs, rules, -⟩ := Machine.run_fails_iff reached
  obtain ⟨before, attempts, fails⟩ := (runs failure).mp failed
  have byRules := rules failure.step before attempts
  refine ⟨reached, failure, before, failed, context, attempts, ?_⟩
  cases error : failure.error with
  | unknownRegister name =>
      rw [error, byRules.firstUnknown, names] at fails
      have first : (["a", "q"].find? fun name => !Register.isName name) = some "q" := by decide
      rw [Option.some.inj (first.symm.trans fails.2)]
  | notANumber value =>
      rw [error, byRules.notANumber, names] at fails
      exact absurd (fails.1 "q" (by decide)) (by decide)

end RegisterMachine
