/-
This file proves that a log stream shows everything that a buffer keeps, and what it shows beyond.
Both sinks are compared on machines that are built and run in the same way.
-/

import RegisterMachine.Proofs.Machine.Repetition
import RegisterMachine.Proofs.Program.Announcement

namespace RegisterMachine

/-- A driven machine is built into a sink, given a debug setting and run a number of times. -/
def Machine.driven {Kept : Type} [Sink Kept] (source : String) (debug : Bool) (sink : Kept)
    (count : Nat) : Machine Kept :=
  ((Machine.ofSource source sink).withDebug debug).afterRuns count

/-- The written records are those that the next run adds to the buffer. -/
def Machine.written (machine : Machine Buffer) : List Record :=
  machine.run.2.sink.records.drop machine.sink.records.length

theorem Machine.program_driven {Kept : Type} [Sink Kept] (source : String) (debug : Bool)
    (sink : Kept) (count : Nat) :
    (Machine.driven source debug sink count).program = Program.ofSource source :=
  Machine.program_afterRuns _ count

theorem Machine.processor_driven {Kept : Type} [Sink Kept] (source : String) (debug : Bool)
    (sink : Kept) (count : Nat) :
    (Machine.driven source debug sink count).processor =
      (Processor.start debug).afterRuns (Program.ofSource source) count :=
  Machine.processor_afterRuns _ count

/-- The result of a run does not depend on the sink. -/
theorem Machine.run_driven {Kept : Type} [Sink Kept] (source : String) (debug : Bool)
    (sink : Kept) (count : Nat) :
    (Machine.driven source debug sink count).run.1 =
      (((Processor.start debug).afterRuns (Program.ofSource source) count).run
        (Program.ofSource source)).failure? := by
  rw [← Machine.processor_driven source debug sink, ← Machine.program_driven source debug sink]
  rfl

theorem Machine.written_eq (machine : Machine Buffer) :
    machine.written = (machine.processor.run machine.program).records :=
  List.drop_left

/-- The buffer keeps the records of the construction and then those of the runs. -/
theorem Machine.records_driven (source : String) (debug : Bool) (count : Nat) :
    (Machine.driven source debug Buffer.empty count).sink.records =
      (Source.buildEvents source ++ (Processor.start debug).eventsOfRuns
        (Program.ofSource source) count).filterMap Event.record? := by
  rw [Machine.driven, Machine.buffer_afterRuns, Buffer.records_write, List.filterMap_append]
  rfl

/-- The entries of a stream are those of the construction and then those of the runs. -/
theorem Machine.entries_driven (source : String) (debug : Bool) (ceiling : Option Level)
    (count : Nat) :
    (Machine.driven source debug (LogStream.empty ceiling) count).sink.entries =
      ((Source.buildEvents source ++
        (Processor.start debug).eventsOfRuns (Program.ofSource source) count).map
          Event.entry).filter fun entry => entry.level.passes ceiling := by
  rw [Machine.driven, Machine.logStream_afterRuns, LogStream.entries_write, List.map_append,
    List.filter_append]
  exact congrArg (· ++ _) (LogStream.entries_write (LogStream.empty ceiling) _)

theorem Machine.whole_entries_driven (source : String) (debug : Bool) (count : Nat) :
    (Machine.driven source debug (LogStream.empty (some .trace)) count).sink.entries =
      (Source.buildEvents source ++
        (Processor.start debug).eventsOfRuns (Program.ofSource source) count).map
          Event.entry := by
  rw [Machine.entries_driven, List.filter_eq_self]
  exact fun entry _ => entry.level.passes_trace

/-- The log of several runs is that of each run in turn. -/
theorem Processor.entries_eventsOfRuns (processor : Processor) (program : Program Float)
    (count : Nat) :
    (processor.eventsOfRuns program count).map Event.entry =
      (List.range count).flatMap fun index =>
        (processor.afterRuns program index).attemptEntries program ++
          Program.closingEntries program
            ((processor.afterRuns program index).run program).failure? := by
  rw [Processor.eventsOfRuns, List.map_flatMap]
  simp only [Processor.entries_run]

theorem Processor.filter_entries_eventsOfRuns (processor : Processor) (program : Program Float)
    (count : Nat) :
    (((processor.eventsOfRuns program count).map Event.entry).filter fun entry =>
        entry.level ≠ .debug) =
      (List.range count).flatMap fun index =>
        ((processor.afterRuns program index).run program).records.map Record.entry ++
          Program.closingEntries program
            ((processor.afterRuns program index).run program).failure? := by
  rw [Processor.eventsOfRuns, List.map_flatMap, List.filter_flatMap]
  simp only [Processor.filter_entries_run]

theorem Processor.records_eventsOfRuns (processor : Processor) (program : Program Float)
    (count : Nat) :
    (processor.eventsOfRuns program count).filterMap Event.record? =
      (List.range count).flatMap fun index =>
        ((processor.afterRuns program index).run program).records := by
  rw [Processor.eventsOfRuns, List.filterMap_flatMap]
  rfl

end RegisterMachine
