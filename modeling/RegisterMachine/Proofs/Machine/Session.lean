/-
This file follows a machine through a session, which is a sequence of actions.
What can be observed of an action depends on the program and the processor, and never on the buffer.
-/

import RegisterMachine.Machine

namespace RegisterMachine

/-- The machine after a session has performed its actions in order. -/
def Machine.after (machine : Machine Buffer) (session : List Action) : Machine Buffer :=
  session.foldl (fun reached action => (reached.perform action).2) machine

/-- The result of an action is its answer, unless the answer is taken from the buffer. -/
def Answer.result? : Answer → Option Answer
  | .drained _ | .messages _ => none
  | answer => some answer

/-- An observation of an action holds its result, the state after it and the records it wrote.
What the buffer held before the action is no part of it. -/
structure Observation where
  action : Action
  result? : Option Answer
  registers : Registers
  flags : Flags
  written : List Record

/-- An action has written what stands in the buffer behind the records that were there before. -/
def Machine.observe (machine : Machine Buffer) (action : Action) : Observation :=
  let (answer, after) := machine.perform action
  ⟨action, answer.result?, after.processor.registers, after.processor.flags,
    after.sink.records.drop machine.sink.records.length⟩

/-- The observations of a session stand in the order of its actions. -/
def Machine.observations (machine : Machine Buffer) : List Action → List Observation
  | [] => []
  | action :: rest => machine.observe action :: (machine.perform action).2.observations rest

/-- Twins have the same program and the same processor, and may differ in their buffers. -/
structure Machine.Twins (first second : Machine Buffer) : Prop where
  program : first.program = second.program
  processor : first.processor = second.processor

theorem Machine.after_cons (machine : Machine Buffer) (action : Action) (rest : List Action) :
    machine.after (action :: rest) = (machine.perform action).2.after rest := rfl

theorem Machine.after_append (machine : Machine Buffer) (first second : List Action) :
    machine.after (first ++ second) = (machine.after first).after second :=
  List.foldl_append

@[simp] theorem Machine.program_perform (machine : Machine Buffer) (action : Action) :
    (machine.perform action).2.program = machine.program := by
  cases action <;> rfl

/-- No session changes the program. -/
@[simp] theorem Machine.program_after (machine : Machine Buffer) (session : List Action) :
    (machine.after session).program = machine.program := by
  induction session generalizing machine with
  | nil => rfl
  | cons action rest ih => rw [Machine.after_cons, ih, Machine.program_perform]

theorem Machine.Twins.refl (machine : Machine Buffer) : machine.Twins machine :=
  ⟨rfl, rfl⟩

theorem Machine.Twins.symm {first second : Machine Buffer} (twins : first.Twins second) :
    second.Twins first :=
  ⟨twins.program.symm, twins.processor.symm⟩

theorem Machine.Twins.trans {first second third : Machine Buffer} (left : first.Twins second)
    (right : second.Twins third) : first.Twins third :=
  ⟨left.program.trans right.program, left.processor.trans right.processor⟩

/-- A run adds its records to the buffer, and no other action adds anything. -/
theorem Machine.written_observe (machine : Machine Buffer) (action : Action) :
    (machine.observe action).written =
      if action = .run then (machine.processor.run machine.program).records else [] := by
  cases action with
  | run => exact List.drop_left
  | reset | debug | messages => exact List.drop_length
  | clear | drain => exact List.drop_nil

/-- The twins of machines stay twins, whatever both of them perform. -/
theorem Machine.Twins.perform {first second : Machine Buffer} (twins : first.Twins second)
    (action : Action) : (first.perform action).2.Twins (second.perform action).2 := by
  obtain ⟨program, processor, sink⟩ := first
  obtain ⟨rfl, rfl⟩ := twins
  cases action <;> exact ⟨rfl, rfl⟩

theorem Machine.Twins.after {first second : Machine Buffer} (twins : first.Twins second)
    (session : List Action) : (first.after session).Twins (second.after session) := by
  induction session generalizing first second with
  | nil => exact twins
  | cons action rest ih => exact ih (twins.perform action)

/-- Twins cannot be told apart by observing what they perform. -/
theorem Machine.Twins.observe {first second : Machine Buffer} (twins : first.Twins second)
    (action : Action) : first.observe action = second.observe action := by
  have written : (first.observe action).written = (second.observe action).written := by
    rw [Machine.written_observe, Machine.written_observe, twins.program, twins.processor]
  have after := twins.perform action
  have result : (first.perform action).1.result? = (second.perform action).1.result? := by
    obtain ⟨program, processor, sink⟩ := first
    obtain ⟨rfl, rfl⟩ := twins
    cases action <;> rfl
  rw [Machine.observe, Machine.observe, Observation.mk.injEq]
  exact ⟨rfl, result, congrArg Processor.registers after.processor,
    congrArg Processor.flags after.processor, written⟩

theorem Machine.Twins.observations {first second : Machine Buffer} (twins : first.Twins second)
    (session : List Action) : first.observations session = second.observations session := by
  induction session generalizing first second with
  | nil => rfl
  | cons action rest ih =>
      rw [Machine.observations, Machine.observations, twins.observe action,
        ih (twins.perform action)]

/-- A machine that has been reset is the twin of one that has just been built. -/
theorem Machine.twins_reset {machine : Machine Buffer} {source : String}
    (same : machine.program = Program.ofSource source) (buffer : Buffer) :
    machine.reset.Twins ((Machine.ofSource source buffer).withDebug machine.processor.debug) :=
  ⟨same, rfl⟩

/-- A reset erases what was done before it.  A session after it is observed as on a new machine of
the same source with the same debug setting.  The program never changes, and the reset itself keeps
the debug setting and the buffer. -/
theorem Machine.observations_after_reset (source : String) (buffer fresh : Buffer)
    (history session : List Action) :
    let built := Machine.ofSource source buffer
    let before := built.after history
    let reached := built.after (history ++ [.reset])
    reached.observations session =
        ((Machine.ofSource source fresh).withDebug before.processor.debug).observations session ∧
      (∀ actions, (built.after actions).program = Program.ofSource source) ∧
      reached.processor.debug = before.processor.debug ∧ reached.sink = before.sink := by
  intro built before reached
  have program (actions : List Action) : (built.after actions).program = Program.ofSource source :=
    built.program_after actions
  have reset : reached = before.reset := built.after_append history [.reset]
  rw [reset]
  exact ⟨(Machine.twins_reset (program history) fresh).observations session, program, rfl, rfl⟩

end RegisterMachine
