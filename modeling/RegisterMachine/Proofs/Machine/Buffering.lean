/-
This file proves that a buffer loses, repeats and reorders no record, whenever it is drained.
An action that reads or empties the buffer drives nothing, so it does not disturb the machine.
-/

import Mathlib.Data.List.Perm.Basic
import RegisterMachine.Proofs.Machine.Session

namespace RegisterMachine

/-- The list holds each severity once. -/
def Severity.all : List Severity :=
  [.log, .info, .warn, .error]

/-- An action drives a machine unless it only reads or empties the buffer. -/
def Action.drives : Action → Bool
  | .run | .reset | .debug _ => true
  | .clear | .drain | .messages _ => false

/-- Only a drain hands records out. -/
def Answer.handedOut : Answer → List Record
  | .drained records => records
  | _ => []

/-- The records that a session hands out stand in the order of its drains. -/
def Machine.handedOut (machine : Machine Buffer) : List Action → List Record
  | [] => []
  | action :: rest =>
      (machine.perform action).1.handedOut ++ (machine.perform action).2.handedOut rest

/-- Each run of a session starts in the state that the actions before it have left. -/
def Machine.runs (machine : Machine Buffer) : List Action → List Run
  | [] => []
  | action :: rest =>
      (if action = .run then [machine.processor.run machine.program] else []) ++
        (machine.perform action).2.runs rest

/-- The messages of a severity are those of its records, and they have kept their order. -/
theorem Buffer.map_messages (buffer : Buffer) (severity : Severity) :
    (buffer.messages severity).map (Record.mk severity) =
      buffer.records.filter fun record => record.severity = severity := by
  rw [Buffer.messages, List.map_map]
  apply (List.map_congr_left _).trans (List.map_id _)
  intro record member
  have same := of_decide_eq_true (List.mem_filter.mp member).2
  rw [Function.comp_apply, ← same]
  rfl

/-- The messages of the four severities are all the records of the buffer, each of them once. -/
theorem Buffer.perm_messages (buffer : Buffer) :
    (Severity.all.flatMap fun severity =>
      (buffer.messages severity).map (Record.mk severity)).Perm buffer.records := by
  rw [List.perm_iff_count]
  intro record
  have share (severity : Severity) :
      (buffer.records.filter fun record => record.severity = severity).count record =
        if record.severity = severity then buffer.records.count record else 0 := by
    split
    · next same => exact List.count_filter (by simpa using same)
    · next other =>
        apply List.count_eq_zero_of_not_mem
        intro member
        exact other (of_decide_eq_true (List.mem_filter.mp member).2)
  simp only [Buffer.map_messages, List.count_flatMap, Function.comp_def, share]
  cases record.severity <;> simp [Severity.all]

/-- What was in the buffer and what an action adds is handed out by the action or still there. -/
theorem Machine.records_perform (machine : Machine Buffer) {action : Action}
    (kept : action ≠ .clear) :
    (machine.perform action).1.handedOut ++ (machine.perform action).2.sink.records =
      machine.sink.records ++ (machine.observe action).written := by
  rw [Machine.written_observe]
  cases action with
  | clear => exact absurd rfl kept
  | run | drain => rfl
  | reset | debug | messages => exact (List.append_nil _).symm

/-- The records of a session are handed out in the order in which the runs have made them. -/
theorem Machine.handedOut_append_records (machine : Machine Buffer) {session : List Action}
    (kept : .clear ∉ session) :
    machine.handedOut session ++ (machine.after session).sink.records =
      machine.sink.records ++ (machine.runs session).flatMap Run.records := by
  induction session generalizing machine with
  | nil => exact (List.append_nil _).symm
  | cons action rest ih =>
      have first : action ≠ .clear := by
        rintro rfl
        exact kept List.mem_cons_self
      have later : .clear ∉ rest := fun member => kept (List.mem_cons_of_mem action member)
      have step := machine.records_perform first
      have written : (machine.observe action).written =
          (if action = .run then [machine.processor.run machine.program] else []).flatMap
            Run.records := by
        rw [Machine.written_observe]
        split <;> simp
      rw [Machine.after_cons, Machine.handedOut, Machine.runs, List.append_assoc,
        ih (machine.perform action).2 later, ← List.append_assoc, step, written,
        List.flatMap_append, List.append_assoc]

theorem Machine.twins_perform_of_not_drives (machine : Machine Buffer) {action : Action}
    (idle : action.drives = false) : (machine.perform action).2.Twins machine := by
  cases action with
  | run | reset | debug => cases idle
  | clear | drain | messages => exact ⟨rfl, rfl⟩

/-- A session leads to the same program and processor without the actions that drive nothing. -/
theorem Machine.twins_after_filter (machine : Machine Buffer) (session : List Action) :
    (machine.after session).Twins (machine.after (session.filter Action.drives)) := by
  induction session generalizing machine with
  | nil => exact .refl machine
  | cons action rest ih =>
      rw [Machine.after_cons, List.filter_cons]
      cases drives : action.drives with
      | true => exact ih (machine.perform action).2
      | false =>
          have idle := (machine.twins_perform_of_not_drives drives).after rest
          exact idle.trans (ih machine)

/-- The actions that drive nothing have no part in what is observed of the others. -/
theorem Machine.observations_filter (machine : Machine Buffer) (session : List Action) :
    ((machine.observations session).filter fun observed => observed.action.drives) =
      machine.observations (session.filter Action.drives) := by
  induction session generalizing machine with
  | nil => rfl
  | cons action rest ih =>
      have named : (machine.observe action).action = action := rfl
      rw [Machine.observations, List.filter_cons, List.filter_cons, named, ih]
      cases drives : action.drives with
      | true => rfl
      | false => exact (machine.twins_perform_of_not_drives drives).observations _

/-- Without a clear, the records that were handed out and those that are still there are the records
of the construction and then those of each run.  The messages of a severity are the records of that
severity in their order, and every record has one of the four severities.  Actions that only read or
empty the buffer can be put in or left out anywhere.  The other actions are observed as before, and
so is whatever is performed next. -/
theorem Machine.records_of_session (source : String) (buffer : Buffer) (session : List Action) :
    let built := Machine.ofSource source buffer
    let reached := built.after session
    (.clear ∉ session → built.handedOut session ++ reached.sink.records =
        built.sink.records ++ (built.runs session).flatMap Run.records) ∧
      (∀ severity, ∃ texts, reached.perform (.messages severity) = (.messages texts, reached) ∧
        texts.map (Record.mk severity) =
          reached.sink.records.filter fun record => record.severity = severity) ∧
      (Severity.all.flatMap fun severity =>
        (reached.sink.messages severity).map (Record.mk severity)).Perm reached.sink.records ∧
      ∀ edited, edited.filter Action.drives = session.filter Action.drives →
        ((built.observations edited).filter fun observed => observed.action.drives) =
            ((built.observations session).filter fun observed => observed.action.drives) ∧
          ∀ next, (built.after edited).observe next = reached.observe next := by
  intro built reached
  refine ⟨built.handedOut_append_records, ?_, reached.sink.perm_messages, ?_⟩
  · intro severity
    exact ⟨reached.sink.messages severity, rfl, reached.sink.map_messages severity⟩
  · intro edited same
    have driven := built.twins_after_filter edited
    rw [same] at driven
    refine ⟨?_, (driven.trans (built.twins_after_filter session).symm).observe⟩
    rw [Machine.observations_filter, Machine.observations_filter, same]

/-- The sample has a line that cannot be read, and each of its runs fails after a record. -/
def Source.countingSample : String :=
  "add $a, !1\nfoo $b\nout $a\nmov $q, $a\nout $a"

/-- The buffer is drained once before a run and once between two runs. -/
def Action.drainingSample : List Action :=
  [.drain, .run, .messages .log, .run, .drain, .reset, .debug true, .run]

/-- The same machine is driven without the drains, and its buffer is cleared instead. -/
def Action.clearingSample : List Action :=
  [.run, .clear, .run, .reset, .messages .error, .debug true, .clear, .run]

theorem Machine.records_of_session_countingSample :
    let built := Machine.ofSource Source.countingSample Buffer.empty
    let reached := built.after Action.drainingSample
    built.handedOut Action.drainingSample ++ reached.sink.records =
        [⟨.error, "[ln: 2] unknown opcode - `foo`"⟩, ⟨.log, "1"⟩, ⟨.log, "2"⟩,
          ⟨.info, "Added '1' to register 'a'."⟩, ⟨.log, "1"⟩] ∧
      reached.sink.messages .log = ["1"] ∧
      ∀ next, (built.after Action.clearingSample).observe next = reached.observe next := by
  intro built reached
  have kept : .clear ∉ Action.drainingSample := by decide
  have driven : Action.clearingSample.filter Action.drives =
      Action.drainingSample.filter Action.drives := by decide
  obtain ⟨taken, messages, -, edited⟩ :=
    Machine.records_of_session Source.countingSample Buffer.empty Action.drainingSample
  obtain ⟨texts, shown, restricted⟩ := messages .log
  refine ⟨(taken kept).trans (by decide +kernel), ?_, (edited _ driven).2⟩
  have named : reached.sink.messages .log = texts := Answer.messages.inj (Prod.mk.inj shown).1
  rw [named]
  refine List.map_injective_iff.mpr (fun _ _ same => (Record.mk.inj same).2)
    (restricted.trans ?_)
  decide +kernel

end RegisterMachine
