/-
This file proves that the debug setting adds information records to a run and changes nothing else.
Silencing a processor before a run gives what silencing the run gives afterwards.
-/

import RegisterMachine.Proofs.Execution.Outcome
import RegisterMachine.Proofs.Execution.Prefix

namespace RegisterMachine

/-- A silenced processor has debug off. -/
def Processor.silenced (processor : Processor) : Processor :=
  { processor with debug := false }

/-- An event informs if it hands out an information record. -/
def Event.informs : Event → Bool
  | .trace _ => false
  | .record handed => handed.severity = .info

/-- A silenced run keeps its end and every event that does not inform. -/
def Run.silenced (run : Run) : Run :=
  ⟨run.processor.silenced, run.events.filter fun event => !event.informs, run.failure?⟩

/-- The completed steps of a program are those before its first failure. -/
def Processor.completed (processor : Processor) (program : Program Float) : Program Float :=
  program.take ((processor.firstFailure? program).getD program.length)

theorem Run.records_silenced (run : Run) :
    run.silenced.records = run.records.filter fun record => record.severity ≠ .info := by
  rw [Run.records, Run.records, Run.silenced, List.filterMap_filter, List.filter_filterMap]
  congr 1
  funext event
  cases event with
  | trace detail => rfl
  | record handed =>
      by_cases same : handed.severity = .info <;>
        simp [Event.informs, Event.record?, Option.filter, same]

/-- The debug setting is no part of what an instruction changes. -/
theorem Processor.on_advance_silenced (instruction : Instruction Float) (processor : Processor) :
    (Processor.advance instruction).on processor.silenced =
      (((Processor.advance instruction).on processor).1,
        ((Processor.advance instruction).on processor).2.silenced) := by
  cases instruction with
  | add register operand => cases operand <;> rfl
  | subtract register operand => cases operand <;> rfl
  | compare comparison left right =>
      have same : processor.silenced.compare comparison left right =
          processor.compare comparison left right := by
        cases left <;> cases right <;> rfl
      rw [Processor.on_advance_compare, Processor.on_advance_compare, same]
      cases processor.compare comparison left right <;> rfl
  | load | move | increment | decrement | out => rfl

theorem Processor.debug_of_on_advance (instruction : Instruction Float) (processor : Processor) :
    ((Processor.advance instruction).on processor).2.debug = processor.debug := by
  cases instruction with
  | add register operand => cases operand <;> rfl
  | subtract register operand => cases operand <;> rfl
  | compare comparison left right =>
      rw [Processor.on_advance_compare]
      cases processor.compare comparison left right <;> rfl
  | load | move | increment | decrement | out => rfl

/-- What is handed out is never mere information. -/
theorem Processor.severity_emit (processor : Processor) (emission : Emission) :
    (processor.emit emission).severity ≠ .info := by
  cases emission with
  | register name =>
      simp only [Processor.emit]
      split <;> simp
  | flag name =>
      simp only [Processor.emit]
      split <;> simp
  | text content => simp [Processor.emit]

/-- The report of an instruction is information, unless the instruction hands something out. -/
theorem Processor.severity_report? {processor : Processor} {instruction : Instruction Float}
    {record : Record} (reported : processor.report? instruction = some record) :
    record.severity = .info ↔ instruction.opcode ≠ .out := by
  cases instruction with
  | out emission =>
      cases reported
      simp [Instruction.opcode, processor.severity_emit emission]
  | compare comparison left right =>
      have other : comparison.opcode ≠ .out := by cases comparison <;> decide
      simp only [Processor.report?] at reported
      split at reported <;> cases reported
      simp [Instruction.opcode, other]
  | load | move | increment | decrement | add | subtract =>
      simp only [Processor.report?] at reported
      split at reported <;> cases reported
      simp [Instruction.opcode]

theorem Processor.report?_silenced (processor : Processor) (instruction : Instruction Float) :
    processor.silenced.report? instruction =
      (processor.report? instruction).filter fun record => record.severity ≠ .info := by
  cases instruction with
  | out emission =>
      have same : processor.silenced.emit emission = processor.emit emission := by
        cases emission <;> rfl
      simp [Processor.report?, same, Option.filter, processor.severity_emit emission]
  | load | move | increment | decrement | add | subtract | compare =>
      simp only [Processor.report?]
      cases processor.debug <;> rfl

/-- In debug mode every instruction has a report. -/
theorem Processor.isSome_report? {processor : Processor} (debug : processor.debug = true)
    (instruction : Instruction Float) : (processor.report? instruction).isSome := by
  cases instruction with
  | out emission => rfl
  | load | move | increment | decrement | add | subtract | compare =>
      simp only [Processor.report?, debug]
      rfl

/-- A silenced step is what is left of the step without its information. -/
theorem Processor.step_silenced (processor : Processor) (step : Step Float) :
    processor.silenced.step step = (processor.step step).silenced := by
  rw [Processor.step, Processor.step, Processor.on_execute, Processor.on_execute,
    Processor.on_advance_silenced]
  rcases (Processor.advance step.instruction).on processor with ⟨error | value, after⟩
  · rfl
  · simp only [Processor.report?_silenced, Run.silenced]
    cases reported : after.report? step.instruction with
    | none => rfl
    | some record =>
        by_cases same : record.severity = .info <;>
          simp [Option.filter, Event.informs, same]

theorem Run.silenced_andThen {next other : Processor → Run}
    (later : ∀ reached, other reached.silenced = (next reached).silenced) (first : Run) :
    (first.andThen next).silenced = first.silenced.andThen other := by
  cases failed : first.failure? with
  | some failure =>
      have kept : first.silenced.failure? = some failure := failed
      rw [Run.andThen_of_some failed, Run.andThen_of_some kept]
  | none =>
      simp only [Run.andThen, Run.silenced, failed, later, List.filter_append]

theorem Processor.runSteps_silenced (processor : Processor) (steps : List (Step Float)) :
    processor.silenced.runSteps steps = (processor.runSteps steps).silenced := by
  induction steps generalizing processor with
  | nil => rfl
  | cons step rest ih =>
      rw [Processor.runSteps_cons, Processor.runSteps_cons, Processor.step_silenced]
      exact (Run.silenced_andThen ih _).symm

/-- Debug mode is observed only through the information records that it adds. -/
theorem Processor.run_silenced (processor : Processor) (program : Program Float) :
    processor.silenced.run program = (processor.run program).silenced := by
  simp only [Processor.run, Processor.runSteps_silenced]
  cases failed : (processor.runSteps program).failure? with
  | some failure => simp only [Run.silenced, failed]
  | none => simp [Run.silenced, failed, Event.informs]

theorem Processor.completed_cons (processor : Processor) (step : Step Float)
    (rest : Program Float) :
    processor.completed (step :: rest) =
      match (Processor.execute step.instruction).on processor with
      | (.ok _, after) => step :: after.completed rest
      | (.error _, _) => [] := by
  rw [Processor.completed, Processor.firstFailure?_cons]
  rcases (Processor.execute step.instruction).on processor with ⟨error | record?, after⟩
  · rfl
  · cases found : after.firstFailure? rest <;> simp [Processor.completed, found]

/-- An execution that succeeds has advanced and reports the state after it. -/
theorem Processor.on_advance_of_execute {processor after : Processor}
    {instruction : Instruction Float} {record? : Option Record}
    (executed : (Processor.execute instruction).on processor = (.ok record?, after)) :
    (Processor.advance instruction).on processor = (.ok (), after) ∧
      record? = after.report? instruction := by
  rw [Processor.on_execute] at executed
  rcases advanced : (Processor.advance instruction).on processor with ⟨error | value, reached⟩
  · rw [advanced] at executed
    cases executed
  · rw [advanced] at executed
    cases executed
    exact ⟨rfl, rfl⟩

theorem Processor.debug_execute (instruction : Instruction Float) (processor : Processor) :
    ((Processor.execute instruction).on processor).2.debug = processor.debug := by
  have kept := Processor.debug_of_on_advance instruction processor
  rw [Processor.on_execute]
  generalize (Processor.advance instruction).on processor = outcome at kept ⊢
  obtain ⟨error | value, after⟩ := outcome <;> exact kept

theorem Processor.debug_step (processor : Processor) (step : Step Float) :
    (processor.step step).processor.debug = processor.debug := by
  have kept := Processor.debug_execute step.instruction processor
  rw [Processor.step]
  generalize (Processor.execute step.instruction).on processor = outcome at kept ⊢
  obtain ⟨error | record?, after⟩ := outcome <;> exact kept

theorem Processor.debug_runSteps (processor : Processor) (steps : List (Step Float)) :
    (processor.runSteps steps).processor.debug = processor.debug := by
  induction steps generalizing processor with
  | nil => rfl
  | cons step rest ih =>
      have first := processor.debug_step step
      rw [Processor.runSteps_cons, Run.andThen]
      cases (processor.step step).failure? with
      | some failure => exact first
      | none => exact (ih (processor.step step).processor).trans first

/-- No run changes the debug setting. -/
theorem Processor.debug_run (processor : Processor) (program : Program Float) :
    (processor.run program).processor.debug = processor.debug := by
  rw [(processor.run_agrees program).processor, Processor.debug_runSteps]

/-- A completed step of debug mode informs once, unless it hands something out. -/
theorem Processor.length_information_execute {processor after : Processor}
    {instruction : Instruction Float} {record? : Option Record} (debug : processor.debug = true)
    (executed : (Processor.execute instruction).on processor = (.ok record?, after)) :
    (record?.toList.filter fun record => record.severity = .info).length =
      if instruction.opcode ≠ .out then 1 else 0 := by
  obtain ⟨advanced, rfl⟩ := Processor.on_advance_of_execute executed
  have kept := Processor.debug_of_on_advance instruction processor
  rw [advanced] at kept
  obtain ⟨record, reported⟩ := Option.isSome_iff_exists.mp
    (Processor.isSome_report? (kept.trans debug) instruction)
  have severity := Processor.severity_report? reported
  by_cases out : instruction.opcode = .out <;> simp [reported, severity, out]

theorem Processor.length_information_runSteps {processor : Processor}
    (debug : processor.debug = true) (program : Program Float) :
    ((processor.runSteps program).records.filter fun record => record.severity = .info).length =
      ((processor.completed program).filter fun step => step.instruction.opcode ≠ .out).length := by
  induction program generalizing processor with
  | nil => rfl
  | cons step rest ih =>
      rw [Processor.completed_cons]
      rcases executed : (Processor.execute step.instruction).on processor with
        ⟨error | record?, after⟩
      · rw [Processor.runSteps_cons, Processor.step_error executed]
        rfl
      · have kept := Processor.debug_of_on_advance step.instruction processor
        rw [(Processor.on_advance_of_execute executed).1] at kept
        rw [Processor.records_runSteps_cons executed, List.filter_append, List.length_append,
          Processor.length_information_execute debug executed, ih (kept.trans debug),
          List.filter_cons]
        by_cases out : step.instruction.opcode = .out <;> simp [out, Nat.add_comm]

end RegisterMachine
