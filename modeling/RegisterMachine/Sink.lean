/-
This file defines what receives the events of a machine.
A buffer keeps the records until they are drained, and a log stream keeps every event of its levels.
-/

import RegisterMachine.Event

namespace RegisterMachine

/-- A sink takes in events and can hold anything made of them. -/
class Sink (Kept : Type) where
  write : Kept → List Event → Kept

/-- A buffer keeps its records in the order in which they came. -/
structure Buffer where
  records : List Record
  deriving DecidableEq

/-- A buffer has no records at first. -/
def Buffer.empty : Buffer :=
  ⟨[]⟩

/-- The buffer has no use for traces. -/
instance : Sink Buffer where
  write buffer events := ⟨buffer.records ++ events.filterMap Event.record?⟩

/-- This function writes a single record. -/
def Buffer.push (buffer : Buffer) (record : Record) : Buffer :=
  Sink.write buffer [.record record]

/-- This function selects the messages of one severity and keeps their order. -/
def Buffer.messages (buffer : Buffer) (severity : Severity) : List String :=
  (buffer.records.filter fun record => record.severity = severity).map Record.message

/-- Draining hands out the records and leaves the buffer empty. -/
def Buffer.drain (buffer : Buffer) : List Record × Buffer :=
  (buffer.records, Buffer.empty)

/-- An entry is an event as the log shows it. -/
structure LogEntry where
  level : Level
  message : String
  deriving DecidableEq

/-- A stream without a ceiling lets nothing through. -/
structure LogStream where
  ceiling : Option Level
  entries : List LogEntry
  deriving DecidableEq

/-- A stream has no entries at first. -/
def LogStream.empty (ceiling : Option Level) : LogStream :=
  ⟨ceiling, []⟩

/-- A level passes when it is no more detailed than the ceiling. -/
def Level.passes (level : Level) : Option Level → Bool
  | none => false
  | some ceiling => decide (level.rank ≤ ceiling.rank)

/-- Each event is worth one entry. -/
def Event.entry (event : Event) : LogEntry :=
  ⟨event.level, event.message⟩

/-- The stream keeps its ceiling and the order of the events. -/
instance : Sink LogStream where
  write stream events :=
    { stream with
      entries := stream.entries ++
        (events.filter fun event => event.level.passes stream.ceiling).map Event.entry }

theorem Level.passes_eq_any (level : Level) (ceiling : Option Level) :
    level.passes ceiling = ceiling.any fun top => decide (level.rank ≤ top.rank) := by
  cases ceiling <;> rfl

/-- Every level passes the ceiling of the most detailed level. -/
theorem Level.passes_trace (level : Level) : level.passes (some .trace) = true := by
  cases level <;> rfl

theorem Buffer.records_write (buffer : Buffer) (events : List Event) :
    (Sink.write buffer events).records = buffer.records ++ events.filterMap Event.record? := rfl

/-- Events without a record leave the buffer as it is. -/
theorem Buffer.write_of_silent (buffer : Buffer) {events : List Event}
    (silent : events.filterMap Event.record? = []) : Sink.write buffer events = buffer := by
  obtain ⟨records⟩ := buffer
  change Buffer.mk (records ++ events.filterMap Event.record?) = ⟨records⟩
  rw [silent, List.append_nil]

theorem LogStream.entries_write (stream : LogStream) (events : List Event) :
    (Sink.write stream events).entries = stream.entries ++
      (events.map Event.entry).filter fun entry => entry.level.passes stream.ceiling := by
  rw [List.filter_map]
  rfl

theorem Buffer.write_append (buffer : Buffer) (first second : List Event) :
    Sink.write buffer (first ++ second) = Sink.write (Sink.write buffer first) second := by
  simp [Sink.write]

theorem LogStream.write_append (stream : LogStream) (first second : List Event) :
    Sink.write stream (first ++ second) = Sink.write (Sink.write stream first) second := by
  simp [Sink.write]

end RegisterMachine
