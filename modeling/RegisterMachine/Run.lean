/-
This file runs programs.
A run stops at the first step that fails and keeps what the steps before it did.
-/

import RegisterMachine.Event
import RegisterMachine.Processor

namespace RegisterMachine

/-- The failure of a run is the error of one step. -/
structure Failure where
  step : Step Float
  error : RegisterError

/-- The context names the instruction that failed and its line. -/
def Failure.context (failure : Failure) : String :=
  "Failed to execute `" ++ failure.step.instruction.display ++ "` on line " ++
    toString failure.step.line

/-- A run ends in a processor, and its failure says why it ended early. -/
structure Run where
  processor : Processor
  events : List Event
  failure? : Option Failure

/-- A step is traced before it is executed, so a failing step leaves a trace too. -/
def Processor.step (processor : Processor) (step : Step Float) : Run :=
  match (Processor.execute step.instruction).on processor with
  | (.ok record?, after) =>
      ⟨after, .trace (.attempted step) :: record?.toList.map .record, none⟩
  | (.error error, after) => ⟨after, [.trace (.attempted step)], some ⟨step, error⟩⟩

/-- The steps after a failing one have no effect. -/
def Processor.runSteps (processor : Processor) : List (Step Float) → Run
  | [] => ⟨processor, [], none⟩
  | step :: rest =>
      let first := processor.step step
      match first.failure? with
      | some _ => first
      | none =>
          let later := first.processor.runSteps rest
          { later with events := first.events ++ later.events }

/-- Only a run without failure is traced as terminated. -/
def Processor.run (processor : Processor) (program : Program Float) : Run :=
  let run := processor.runSteps program
  match run.failure? with
  | some _ => run
  | none => { run with events := run.events ++ [.trace (.terminated program.length)] }

/-- The records of a run are what it hands out. -/
def Run.records (run : Run) : List Record :=
  run.events.filterMap Event.record?

end RegisterMachine
