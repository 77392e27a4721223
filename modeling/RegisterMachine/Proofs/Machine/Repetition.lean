/-
This file runs a machine several times in a row.
Each run starts where the one before it ended, and the sink receives the runs in their order.
-/

import RegisterMachine.Machine

namespace RegisterMachine

variable {Kept : Type} [Sink Kept]

/-- A run leaves the processor behind in which the next run starts. -/
def Processor.afterRuns (processor : Processor) (program : Program Float) : Nat → Processor
  | 0 => processor
  | count + 1 => ((processor.afterRuns program count).run program).processor

/-- The machine after a count of runs has run that often, and nothing else was done to it. -/
def Machine.afterRuns (machine : Machine Kept) : Nat → Machine Kept
  | 0 => machine
  | count + 1 => (machine.afterRuns count).run.2

/-- The events of several runs are those of each run in turn. -/
def Processor.eventsOfRuns (processor : Processor) (program : Program Float) (count : Nat) :
    List Event :=
  (List.range count).flatMap fun index => ((processor.afterRuns program index).run program).events

theorem Processor.eventsOfRuns_succ (processor : Processor) (program : Program Float)
    (count : Nat) :
    processor.eventsOfRuns program (count + 1) = processor.eventsOfRuns program count ++
      ((processor.afterRuns program count).run program).events := by
  rw [Processor.eventsOfRuns, List.range_succ, List.flatMap_append, List.flatMap_singleton]
  rfl

@[simp] theorem Machine.program_afterRuns (machine : Machine Kept) (count : Nat) :
    (machine.afterRuns count).program = machine.program := by
  induction count with
  | zero => rfl
  | succ count ih => exact ih

/-- The sink has no influence on the processor. -/
@[simp] theorem Machine.processor_afterRuns (machine : Machine Kept) (count : Nat) :
    (machine.afterRuns count).processor = machine.processor.afterRuns machine.program count := by
  induction count with
  | zero => rfl
  | succ count ih =>
      change ((machine.afterRuns count).processor.run (machine.afterRuns count).program).processor =
        _
      rw [ih, Machine.program_afterRuns]
      rfl

theorem Machine.sink_afterRuns_succ (machine : Machine Kept) (count : Nat) :
    (machine.afterRuns (count + 1)).sink = Sink.write (machine.afterRuns count).sink
      ((machine.processor.afterRuns machine.program count).run machine.program).events := by
  rw [← Machine.processor_afterRuns, ← Machine.program_afterRuns machine count]
  rfl

/-- A sink that cannot tell how its events were batched has received all runs at once. -/
theorem Machine.sink_afterRuns (empty : ∀ sink : Kept, Sink.write sink [] = sink)
    (append : ∀ (sink : Kept) (first second : List Event),
      Sink.write sink (first ++ second) = Sink.write (Sink.write sink first) second)
    (machine : Machine Kept) (count : Nat) :
    (machine.afterRuns count).sink =
      Sink.write machine.sink (machine.processor.eventsOfRuns machine.program count) := by
  induction count with
  | zero => exact (empty machine.sink).symm
  | succ count ih => rw [Machine.sink_afterRuns_succ, ih, Processor.eventsOfRuns_succ, append]

theorem Machine.buffer_afterRuns (machine : Machine Buffer) (count : Nat) :
    (machine.afterRuns count).sink =
      Sink.write machine.sink (machine.processor.eventsOfRuns machine.program count) :=
  machine.sink_afterRuns (fun sink => congrArg Buffer.mk (List.append_nil sink.records))
    Buffer.write_append count

theorem Machine.logStream_afterRuns (machine : Machine LogStream) (count : Nat) :
    (machine.afterRuns count).sink =
      Sink.write machine.sink (machine.processor.eventsOfRuns machine.program count) :=
  machine.sink_afterRuns (fun sink => congrArg (LogStream.mk sink.ceiling)
    (List.append_nil sink.entries)) LogStream.write_append count

end RegisterMachine
