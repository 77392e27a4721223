/-
This file proves that debug mode only observes a machine, in however many runs it has.
The loud machine and the silent one end in the same states, and only information tells them apart.
-/

import RegisterMachine.Proofs.Execution.Silence
import RegisterMachine.Proofs.Machine.Repetition

namespace RegisterMachine

/-- A silenced machine has debug off and has handed out no information. -/
def Machine.silenced (machine : Machine Buffer) : Machine Buffer :=
  ⟨machine.program, machine.processor.silenced,
    ⟨machine.sink.records.filter fun record => record.severity ≠ .info⟩⟩

/-- A started machine is about to run a program in the given state and has written nothing. -/
def Machine.started (program : Program Float) (registers : Registers) (flags : Flags)
    (debug : Bool) : Machine Buffer :=
  ⟨program, ⟨registers, flags, debug⟩, Buffer.empty⟩

/-- A run of the silenced machine is the silenced run of the machine, with the same result. -/
theorem Machine.run_silenced (machine : Machine Buffer) :
    machine.silenced.run = (machine.run.1, machine.run.2.silenced) := by
  have run := machine.processor.run_silenced machine.program
  have records := (machine.processor.run machine.program).records_silenced
  simp only [Run.records] at records
  simp only [Machine.run, Machine.silenced, run, Sink.write, records, List.filter_append]
  rfl

theorem Machine.afterRuns_silenced (machine : Machine Buffer) (count : Nat) :
    machine.silenced.afterRuns count = (machine.afterRuns count).silenced := by
  induction count with
  | zero => rfl
  | succ count ih =>
      rw [Machine.afterRuns, ih, Machine.run_silenced]
      rfl

theorem Processor.debug_afterRuns (processor : Processor) (program : Program Float)
    (count : Nat) : (processor.afterRuns program count).debug = processor.debug := by
  induction count with
  | zero => rfl
  | succ count ih => rw [Processor.afterRuns, Processor.debug_run, ih]

/-- Debug mode keeps the result, the registers and the flags of every run, and the records of a
silent machine are those of a loud one without its information.  In each run the loud machine
informs once about each completed step that hands nothing out. -/
theorem Machine.afterRuns_debug (program : Program Float) (registers : Registers) (flags : Flags)
    (count : Nat) :
    let silent := (Machine.started program registers flags false).afterRuns count
    let loud := (Machine.started program registers flags true).afterRuns count
    silent.run.1 = loud.run.1 ∧ silent.processor.registers = loud.processor.registers ∧
      silent.processor.flags = loud.processor.flags ∧
      silent.sink.records = loud.sink.records.filter (fun record => record.severity ≠ .info) ∧
      ∃ written, loud.run.2.sink.records = loud.sink.records ++ written ∧
        (written.filter fun record => record.severity = .info).length =
          ((loud.processor.completed program).filter fun step =>
            step.instruction.opcode ≠ .out).length := by
  intro silent loud
  have same : silent = loud.silenced :=
    (Machine.started program registers flags true).afterRuns_silenced count
  have kept : loud.program = program := Machine.program_afterRuns _ count
  have debug : loud.processor.debug = true := by
    rw [Machine.processor_afterRuns, Processor.debug_afterRuns]
    rfl
  rw [same]
  refine ⟨by rw [loud.run_silenced], rfl, rfl, rfl,
    (loud.processor.run loud.program).records, rfl, ?_⟩
  rw [(loud.processor.run_agrees loud.program).records, kept]
  exact Processor.length_information_runSteps debug program

end RegisterMachine
