/-
This file describes what a run leaves in a log that keeps every event.
Each attempted step leaves its trace and then its record, and the failing step is the last one.
-/

import RegisterMachine.Proofs.Execution.Prefix

namespace RegisterMachine

/-- The log shows a record at the level of its severity. -/
def Record.entry (record : Record) : LogEntry :=
  ⟨record.severity.level, record.message⟩

/-- The log shows a step with its line before the step is executed. -/
def Step.attemptEntry (step : Step Float) : LogEntry :=
  ⟨.debug, "[" ++ toString step.line ++ "] " ++ step.instruction.display⟩

/-- The record at a position is the one that its step hands out after all the steps before it. -/
def Processor.recordAt? (processor : Processor) (program : Program Float) (position : Nat) :
    Option Record :=
  match program[position]? with
  | none => none
  | some step =>
      match (Processor.execute step.instruction).on (processor.fold (program.take position)).1 with
      | (.ok record?, _) => record?
      | (.error _, _) => none

/-- A run attempts every step up to its first failure, and the failing step as well. -/
def Processor.attempted (processor : Processor) (program : Program Float) : Program Float :=
  match processor.firstFailure? program with
  | none => program
  | some position => program.take (position + 1)

/-- The record of an attempted step stands right after the entry of the attempt. -/
def Processor.attemptEntries (processor : Processor) (program : Program Float) : List LogEntry :=
  ((processor.attempted program).mapIdx fun position step =>
    step.attemptEntry ::
      ((processor.recordAt? program position).map Record.entry).toList).flatten

/-- Only a run without failure is closed, by the number of the steps of its program. -/
def Program.closingEntries (program : Program Float) : Option Failure → List LogEntry
  | none =>
      [⟨.info, "Program terminated after " ++ toString program.length ++ " instruction(s)"⟩]
  | some _ => []

theorem Processor.recordAt?_zero (processor : Processor) (step : Step Float)
    (rest : List (Step Float)) :
    processor.recordAt? (step :: rest) 0 =
      match (Processor.execute step.instruction).on processor with
      | (.ok record?, _) => record?
      | (.error _, _) => none := rfl

/-- A later position of the program is an earlier one after its first step. -/
theorem Processor.recordAt?_succ {processor after : Processor} {step : Step Float}
    {result : Except RegisterError (Option Record)}
    (executed : (Processor.execute step.instruction).on processor = (result, after))
    (rest : List (Step Float)) (position : Nat) :
    processor.recordAt? (step :: rest) (position + 1) = after.recordAt? rest position := by
  simp only [Processor.recordAt?, List.getElem?_cons_succ, List.take_succ_cons,
    Processor.fold_cons, executed]
  cases result <;> rfl

theorem Processor.attempted_cons (processor : Processor) (step : Step Float)
    (rest : Program Float) :
    processor.attempted (step :: rest) =
      match (Processor.execute step.instruction).on processor with
      | (.ok _, after) => step :: after.attempted rest
      | (.error _, _) => [step] := by
  rw [Processor.attempted, Processor.firstFailure?_cons]
  rcases (Processor.execute step.instruction).on processor with ⟨error | record?, after⟩
  · rfl
  · cases found : after.firstFailure? rest <;> simp [Processor.attempted, found]

/-- The first step is attempted in any case, and the rest only if it succeeds. -/
theorem Processor.attemptEntries_cons (processor : Processor) (step : Step Float)
    (rest : Program Float) :
    processor.attemptEntries (step :: rest) =
      match (Processor.execute step.instruction).on processor with
      | (.ok record?, after) =>
          step.attemptEntry :: ((record?.map Record.entry).toList ++ after.attemptEntries rest)
      | (.error _, _) => [step.attemptEntry] := by
  rw [Processor.attemptEntries, Processor.attempted_cons]
  rcases executed : (Processor.execute step.instruction).on processor with
    ⟨error | record?, after⟩
  · simp only [List.mapIdx_cons, List.mapIdx_nil, Processor.recordAt?_zero, executed]
    rfl
  · simp only [List.mapIdx_cons, Processor.recordAt?_zero, Processor.recordAt?_succ executed,
      executed]
    rfl

/-- The recursion over the steps logs what the search by positions describes. -/
theorem Processor.entries_runSteps (processor : Processor) (program : Program Float) :
    (processor.runSteps program).events.map Event.entry = processor.attemptEntries program := by
  induction program generalizing processor with
  | nil => rfl
  | cons step rest ih =>
      rw [Processor.attemptEntries_cons, Processor.runSteps_cons]
      rcases executed : (Processor.execute step.instruction).on processor with
        ⟨error | record?, after⟩
      · rw [Processor.step_error executed]
        rfl
      · rw [Processor.step_ok executed]
        simp only [Run.andThen, List.map_append, ih]
        cases record? <;> rfl

/-- No step closes the log of a run. -/
theorem Processor.not_terminated_of_mem_runSteps (processor : Processor)
    (program : Program Float) (instructions : Nat) :
    Event.trace (.terminated instructions) ∉ (processor.runSteps program).events := by
  induction program generalizing processor with
  | nil => exact List.not_mem_nil
  | cons step rest ih =>
      rw [Processor.runSteps_cons]
      rcases executed : (Processor.execute step.instruction).on processor with
        ⟨error | record?, after⟩
      · rw [Processor.step_error executed]
        simp [Run.andThen]
      · rw [Processor.step_ok executed]
        simp [Run.andThen, ih after]

/-- Without its details a log shows the records, unless it has been closed. -/
theorem Event.filter_entries {events : List Event}
    (unclosed : ∀ instructions, Event.trace (.terminated instructions) ∉ events) :
    ((events.map Event.entry).filter fun entry => entry.level ≠ .debug) =
      (events.filterMap Event.record?).map Record.entry := by
  induction events with
  | nil => rfl
  | cons event rest ih =>
      have later := ih fun instructions inside =>
        unclosed instructions (List.mem_cons_of_mem event inside)
      rw [List.map_cons, List.filter_cons, later]
      cases event with
      | record handed =>
          have shown : handed.severity.level ≠ .debug := by cases handed.severity <;> decide
          exact if_pos (decide_eq_true shown)
      | trace detail =>
          cases detail with
          | terminated instructions => exact absurd List.mem_cons_self (unclosed instructions)
          | lexicalError | tokenFound | tokenSkipped | assemblyError | built | attempted => rfl

theorem Processor.entries_run (processor : Processor) (program : Program Float) :
    (processor.run program).events.map Event.entry = processor.attemptEntries program ++
      Program.closingEntries program (processor.run program).failure? := by
  rw [(processor.run_agrees program).failure?, ← Processor.entries_runSteps, Processor.run]
  cases failed : (processor.runSteps program).failure? with
  | some failure => exact (List.append_nil _).symm
  | none =>
      rw [List.map_append]
      rfl

/-- The log of a run shows the records of the run above its details, and then how it was closed. -/
theorem Processor.filter_entries_run (processor : Processor) (program : Program Float) :
    (((processor.run program).events.map Event.entry).filter fun entry => entry.level ≠ .debug) =
      (processor.run program).records.map Record.entry ++
        Program.closingEntries program (processor.run program).failure? := by
  have shown := Event.filter_entries fun instructions =>
    processor.not_terminated_of_mem_runSteps program instructions
  have closed (failure? : Option Failure) :
      ((Program.closingEntries program failure?).filter fun entry => entry.level ≠ .debug) =
        Program.closingEntries program failure? := by
    cases failure? <;> rfl
  rw [Processor.entries_run, ← Processor.entries_runSteps, List.filter_append, shown, closed,
    (processor.run_agrees program).records]
  rfl

end RegisterMachine
