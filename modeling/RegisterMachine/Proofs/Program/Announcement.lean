/-
This file describes what the construction of a machine leaves in a log that keeps every event.
Each error is announced by a detail with the same text, and every error entry is such an error.
-/

import RegisterMachine.Proofs.Execution.Attempts
import RegisterMachine.Proofs.Program.Concatenation

namespace RegisterMachine

/-- Entries are announced if each error among them comes right after a detail with its text. -/
def LogEntry.Announced (entries : List LogEntry) : Prop :=
  ∀ earlier text later, entries = earlier ++ ⟨.error, text⟩ :: later →
    ∃ before, earlier = before ++ [⟨.debug, text⟩]

theorem LogEntry.Announced.append {first second : List LogEntry} (left : Announced first)
    (right : Announced second) : Announced (first ++ second) := by
  intro earlier text later split
  rcases List.append_eq_append_iff.mp split with
    ⟨between, rfl, tail⟩ | ⟨_ | ⟨entry, between⟩, rfl, tail⟩
  · obtain ⟨before, rfl⟩ := right between text later tail
    exact ⟨first ++ before, (List.append_assoc ..).symm⟩
  · obtain ⟨before, impossible⟩ := right [] text later tail.symm
    simp at impossible
  · obtain ⟨rfl, rfl⟩ := List.cons.inj tail
    exact left earlier text between rfl

/-- An error cannot be the first of the announced entries. -/
theorem LogEntry.announced_of_forall_ne {entries : List LogEntry}
    (harmless : ∀ entry ∈ entries, entry.level ≠ .error) : Announced entries := by
  rintro earlier text later rfl
  exact absurd rfl (harmless ⟨.error, text⟩ (by simp))

theorem LogEntry.announced_pair (text : String) :
    Announced [⟨.debug, text⟩, ⟨.error, text⟩] := by
  rintro (_ | ⟨first, _ | ⟨second, rest⟩⟩) other later split
  · cases split
  · obtain ⟨rfl, rest⟩ := List.cons.inj split
    cases rest
    exact ⟨[], rfl⟩
  · simp at split

theorem LogEntry.Announced.flatMap {Item : Type} {make : Item → List Event} {items : List Item}
    (each : ∀ item ∈ items, Announced ((make item).map Event.entry)) :
    Announced ((items.flatMap make).map Event.entry) := by
  induction items with
  | nil => exact announced_of_forall_ne fun _ inside => absurd inside List.not_mem_nil
  | cons item rest ih =>
      rw [List.flatMap_cons, List.map_append]
      exact (each item List.mem_cons_self).append
        (ih fun later inside => each later (List.mem_cons_of_mem item inside))

theorem Reading.announced_events (reading : Reading) :
    LogEntry.Announced (reading.events.map Event.entry) := by
  rw [Reading.events, List.map_append]
  apply LogEntry.Announced.append
  · exact LogEntry.Announced.flatMap fun error _ => LogEntry.announced_pair error.message
  · apply LogEntry.announced_of_forall_ne
    cases reading.token? <;> simp [Event.entry, Event.level, Trace.level]

theorem Assembly.announced_events (assembly : Assembly) :
    LogEntry.Announced (assembly.events.map Event.entry) := by
  cases assembly with
  | rejected error => exact LogEntry.announced_pair error.message
  | skipped token =>
      exact LogEntry.announced_of_forall_ne
        (by simp [Assembly.events, Event.entry, Event.level, Trace.level])
  | assembled step => exact LogEntry.announced_of_forall_ne (by simp [Assembly.events])

/-- Neither the reading nor the assembly of a source leaves an error without an announcement. -/
theorem Source.announced_buildEvents (source : String) :
    LogEntry.Announced ((Source.buildEvents source).map Event.entry) := by
  rw [Source.buildEvents, List.map_append, List.map_append]
  refine (LogEntry.Announced.append ?_ ?_).append ?_
  · exact LogEntry.Announced.flatMap fun reading _ => reading.announced_events
  · exact LogEntry.Announced.flatMap fun token _ => (Assembly.ofToken token).announced_events
  · exact LogEntry.announced_of_forall_ne (by simp [Event.entry, Event.level, Trace.level])

/-- The construction of a machine does not close a log. -/
theorem Source.not_terminated_of_mem_buildEvents (source : String) (instructions : Nat) :
    Event.trace (.terminated instructions) ∉ Source.buildEvents source := by
  have assembly (assembly : Assembly) :
      Event.trace (.terminated instructions) ∉ assembly.events := by
    cases assembly <;> simp [Assembly.events]
  simp [Source.buildEvents, Source.events, Reading.events, LexicalError.events,
    Assembly.eventsOf, assembly]

theorem Assembly.records_eventsOf (tokens : List Token) :
    (Assembly.eventsOf tokens).filterMap Event.record? =
      (AssemblyError.ofTokens tokens).map fun error => ⟨.error, error.message⟩ := by
  induction tokens with
  | nil => rfl
  | cons token rest ih =>
      rw [Assembly.eventsOf, AssemblyError.ofTokens] at ih ⊢
      rw [List.flatMap_cons, List.filterMap_append, ih, List.filterMap_cons]
      cases Assembly.ofToken token <;> rfl

/-- The error entries of a construction are the errors of the source, first those of its lines. -/
theorem Source.error_entries_buildEvents (source : String) :
    (((Source.buildEvents source).map Event.entry).filter fun entry => entry.level = .error) =
      ((Source.errors source).map LexicalError.message ++
        (AssemblyError.ofTokens (Source.tokens source)).map AssemblyError.message).map
          (LogEntry.mk .error) := by
  have shown := Event.filter_entries (Source.not_terminated_of_mem_buildEvents source)
  have split (entries : List LogEntry) : (entries.filter fun entry => entry.level = .error) =
      (entries.filter fun entry => entry.level ≠ .debug).filter fun entry =>
        entry.level = .error := by
    rw [List.filter_filter]
    congr 1
    funext entry
    cases entry.level <;> rfl
  rw [split, shown, Source.records_buildEvents, Source.readRecords, Source.records_events,
    Source.assemblyRecords, Assembly.records_eventsOf]
  simp [Record.entry, Severity.level, List.filter_map, Function.comp_def]

end RegisterMachine
