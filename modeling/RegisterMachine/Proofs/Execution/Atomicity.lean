/-
This file proves that a failing instruction changes nothing.
A change that only looks keeps its state, and it stays atomic to look before an atomic change.
-/

import RegisterMachine.Processor

namespace RegisterMachine

variable {State Value Other : Type}

/-- A change only looks if it keeps every state in which it starts. -/
def Change.OnlyLooks (change : Change State Value) : Prop :=
  ∀ state, (change.on state).2 = state

/-- A change is atomic if it keeps the state whenever it fails. -/
def Change.Atomic (change : Change State Value) : Prop :=
  ∀ state error, (change.on state).1 = .error error → (change.on state).2 = state

theorem Change.OnlyLooks.atomic {change : Change State Value} (looks : change.OnlyLooks) :
    change.Atomic :=
  fun state _ _ => looks state

theorem Change.onlyLooks_lift (result : Except RegisterError Value) :
    Change.OnlyLooks (liftM result : Change State Value) :=
  fun _ => rfl

theorem Change.onlyLooks_getThe : Change.OnlyLooks (getThe State : Change State State) :=
  fun _ => rfl

/-- A change that cannot fail is atomic. -/
theorem Change.atomic_modify (update : State → State) :
    Change.Atomic (modify update : Change State Unit) := by
  intro state error failed
  cases failed

/-- What has only been looked at before need not be undone. -/
theorem Change.OnlyLooks.atomic_bind {change : Change State Value} (looks : change.OnlyLooks)
    {next : Value → Change State Other} (atomic : ∀ value, (next value).Atomic) :
    Change.Atomic (change >>= next) := by
  intro state error failed
  have kept := looks state
  rw [Change.on_bind] at failed ⊢
  cases found : change.on state with
  | mk result after =>
      rw [found] at failed kept
      change after = state at kept
      subst kept
      cases result with
      | ok value => exact atomic value after error failed
      | error other => rfl

/-- Both names and the number are checked before the register is written. -/
theorem Registers.update_atomic (combine : Float → Float → Float) (name : String)
    (value : Float) : (Registers.update combine name value).Atomic := by
  apply (Change.onlyLooks_lift (Registers.resolve name)).atomic_bind
  intro register
  apply (Change.onlyLooks_lift (Registers.validate value)).atomic_bind
  intro incoming
  exact Change.atomic_modify _

/-- Reading a source register first does not spoil the atomicity of what follows. -/
theorem Registers.read_atomic_bind (source : String) {next : Float → Change Registers Unit}
    (atomic : ∀ value, (next value).Atomic) :
    Change.Atomic (do
      let value ← (← getThe Registers).read source
      next value) := by
  apply Change.onlyLooks_getThe.atomic_bind
  intro registers
  exact (Change.onlyLooks_lift (registers.read source)).atomic_bind atomic

/-- No operation leaves a trace in the registers when it fails. -/
theorem Registers.apply_atomic (operation : Registers.Operation) :
    (Registers.apply operation).Atomic := by
  cases operation with
  | write name value =>
      unfold Registers.apply Registers.write
      exact Registers.update_atomic _ name value
  | increment name =>
      unfold Registers.apply Registers.increment Registers.addValue
      exact Registers.update_atomic _ name 1
  | decrement name =>
      unfold Registers.apply Registers.decrement Registers.subtractValue
      exact Registers.update_atomic _ name 1
  | addRegister name source =>
      unfold Registers.apply Registers.addRegister Registers.addValue
      exact Registers.read_atomic_bind source (Registers.update_atomic _ name)
  | addValue name value =>
      unfold Registers.apply Registers.addValue
      exact Registers.update_atomic _ name value
  | subtractRegister name source =>
      unfold Registers.apply Registers.subtractRegister Registers.subtractValue
      exact Registers.read_atomic_bind source (Registers.update_atomic _ name)
  | subtractValue name value =>
      unfold Registers.apply Registers.subtractValue
      exact Registers.update_atomic _ name value
  | move source destination =>
      unfold Registers.apply Registers.move Registers.write
      exact Registers.read_atomic_bind source (Registers.update_atomic _ destination)
  | reset => exact Change.atomic_modify _

theorem Processor.on_onRegisters (change : Change Registers Unit) (processor : Processor) :
    (Processor.onRegisters change).on processor =
      ((change.on processor.registers).1,
        { processor with registers := (change.on processor.registers).2 }) := rfl

/-- The processor adds nothing that an atomic change of the registers would have to undo. -/
theorem Processor.onRegisters_atomic {change : Change Registers Unit} (atomic : change.Atomic) :
    (Processor.onRegisters change).Atomic := by
  intro processor error failed
  rw [Processor.on_onRegisters] at failed ⊢
  rw [atomic processor.registers error failed]

/-- A failing instruction has touched no register and no flag. -/
theorem Processor.advance_atomic (instruction : Instruction Float) :
    (Processor.advance instruction).Atomic := by
  cases instruction with
  | load register value =>
      exact Processor.onRegisters_atomic (Registers.apply_atomic (.write register value))
  | move source destination =>
      exact Processor.onRegisters_atomic (Registers.apply_atomic (.move source destination))
  | increment register =>
      exact Processor.onRegisters_atomic (Registers.apply_atomic (.increment register))
  | decrement register =>
      exact Processor.onRegisters_atomic (Registers.apply_atomic (.decrement register))
  | add register operand =>
      cases operand with
      | register source =>
          exact Processor.onRegisters_atomic (Registers.apply_atomic (.addRegister register source))
      | literal value =>
          exact Processor.onRegisters_atomic (Registers.apply_atomic (.addValue register value))
  | subtract register operand =>
      cases operand with
      | register source =>
          exact Processor.onRegisters_atomic
            (Registers.apply_atomic (.subtractRegister register source))
      | literal value =>
          exact Processor.onRegisters_atomic
            (Registers.apply_atomic (.subtractValue register value))
  | compare comparison left right =>
      apply Change.onlyLooks_getThe.atomic_bind
      intro processor
      apply (Change.onlyLooks_lift (processor.compare comparison left right)).atomic_bind
      intro result
      exact Change.atomic_modify _
  | out emission =>
      intro processor error failed
      cases failed

/-- An execution is a change of the state with a report on what it leaves behind. -/
theorem Processor.on_execute (instruction : Instruction Float) (processor : Processor) :
    (Processor.execute instruction).on processor =
      match (Processor.advance instruction).on processor with
      | (.ok _, after) => (.ok (after.report? instruction), after)
      | (.error error, after) => (.error error, after) := by
  rw [Processor.execute, Change.on_bind]
  cases (Processor.advance instruction).on processor with
  | mk result after => cases result <;> rfl

/-- A failing execution leaves the processor as it was. -/
theorem Processor.execute_atomic (instruction : Instruction Float) :
    (Processor.execute instruction).Atomic := by
  intro processor error failed
  have atomic := Processor.advance_atomic instruction processor
  rw [Processor.on_execute] at failed ⊢
  cases found : (Processor.advance instruction).on processor with
  | mk result after =>
      rw [found] at failed atomic
      cases result with
      | ok value => cases failed
      | error other => exact atomic other rfl

end RegisterMachine
