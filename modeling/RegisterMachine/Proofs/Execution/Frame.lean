/-
This file proves that an instruction writes one register at most.
Every other register keeps its number through a step and through a run, which may also fail.
-/

import RegisterMachine.Proofs.Execution.Fault

namespace RegisterMachine

variable {State Value Other : Type}

/-- A change keeps a property if the state that it leaves behind still has it. -/
def Change.Keeps (property : State → Prop) (change : Change State Value) : Prop :=
  ∀ state, property state → property (change.on state).2

/-- The destination of an instruction is the register that it writes. -/
def Instruction.destination? {Value : Type} : Instruction Value → Option String
  | .load register _ | .increment register | .decrement register => some register
  | .move _ destination => some destination
  | .add register _ | .subtract register _ => some register
  | .compare _ _ _ | .out _ => none

variable {property : State → Prop}

theorem Change.OnlyLooks.keeps {change : Change State Value} (looks : change.OnlyLooks) :
    change.Keeps property := by
  intro state holds
  rw [looks state]
  exact holds

/-- What follows starts in a state with the property, or the first change has failed in one. -/
theorem Change.Keeps.bind {change : Change State Value} (keeps : change.Keeps property)
    {next : Value → Change State Other} (later : ∀ value, (next value).Keeps property) :
    Change.Keeps property (change >>= next) := by
  intro state holds
  have reached := keeps state holds
  rw [Change.on_bind]
  generalize change.on state = outcome at reached ⊢
  obtain ⟨error | value, after⟩ := outcome
  · exact reached
  · exact later value after reached

section Registers

variable {property : Registers → Prop}

/-- An update keeps what does not depend on the register that it writes. -/
theorem Registers.keeps_update {name : String}
    (kept : ∀ register, Register.ofName? name = some register →
      ∀ registers value, property registers → property (registers.set register value))
    (combine : Float → Float → Float) (value : Float) :
    (Registers.update combine name value).Keeps property := by
  intro registers holds
  cases found : Register.ofName? name with
  | none =>
      rw [Registers.on_update_of_none found]
      exact holds
  | some register =>
      cases number : value.isNaN with
      | true =>
          rw [Registers.on_update_of_isNaN found number]
          exact holds
      | false =>
          rw [Registers.on_update found number]
          exact kept register found registers _ holds

theorem Registers.keeps_read_bind (source : String) {next : Float → Change Registers Unit}
    (later : ∀ value, (next value).Keeps property) :
    Change.Keeps property (do
      let value ← (← getThe Registers).read source
      next value) := by
  have looks : Change.Keeps property (getThe Registers) := Change.onlyLooks_getThe.keeps
  apply looks.bind
  intro registers
  exact (Change.onlyLooks_lift (registers.read source)).keeps.bind later

theorem Processor.keeps_onRegisters {change : Change Registers Unit}
    (keeps : change.Keeps property) :
    (Processor.onRegisters change).Keeps fun processor => property processor.registers :=
  fun processor => keeps processor.registers

/-- An instruction keeps what does not depend on its destination. -/
theorem Processor.keeps_advance {instruction : Instruction Float}
    (kept : ∀ name, instruction.destination? = some name →
      ∀ register, Register.ofName? name = some register →
        ∀ registers value, property registers → property (registers.set register value)) :
    (Processor.advance instruction).Keeps fun processor => property processor.registers := by
  cases instruction with
  | load register value =>
      have keeps := Registers.keeps_update (kept register rfl) (fun _ incoming => incoming)
      exact Processor.keeps_onRegisters (keeps value)
  | move source destination =>
      have keeps := Registers.keeps_update (kept destination rfl) (fun _ incoming => incoming)
      exact Processor.keeps_onRegisters (Registers.keeps_read_bind source keeps)
  | increment register =>
      exact Processor.keeps_onRegisters (Registers.keeps_update (kept register rfl) (· + ·) 1)
  | decrement register =>
      exact Processor.keeps_onRegisters (Registers.keeps_update (kept register rfl) (· - ·) 1)
  | add register operand =>
      have keeps := Registers.keeps_update (kept register rfl) (· + ·)
      cases operand with
      | register source =>
          exact Processor.keeps_onRegisters (Registers.keeps_read_bind source keeps)
      | literal value => exact Processor.keeps_onRegisters (keeps value)
  | subtract register operand =>
      have keeps := Registers.keeps_update (kept register rfl) (· - ·)
      cases operand with
      | register source =>
          exact Processor.keeps_onRegisters (Registers.keeps_read_bind source keeps)
      | literal value => exact Processor.keeps_onRegisters (keeps value)
  | compare comparison left right =>
      intro processor holds
      rw [Processor.on_advance_compare]
      cases processor.compare comparison left right <;> exact holds
  | out emission => exact fun _ holds => holds

end Registers

/-- A step leaves behind what its instruction leaves behind, whether or not it fails. -/
theorem Processor.processor_step (processor : Processor) (step : Step Float) :
    (processor.step step).processor =
      ((Processor.advance step.instruction).on processor).2 := by
  rw [Processor.step, Processor.on_execute]
  generalize (Processor.advance step.instruction).on processor = outcome
  obtain ⟨error | value, after⟩ := outcome <;> rfl

/-- A register that is not the destination keeps its number. -/
theorem Processor.get_step_of_ne {step : Step Float} {register : Register}
    (other : step.instruction.destination? ≠ some register.name) (processor : Processor) :
    (processor.step step).processor.registers.get register =
      processor.registers.get register := by
  have kept (name : String) (written : step.instruction.destination? = some name)
      (destination : Register) (known : Register.ofName? name = some destination)
      (registers : Registers) (value : Float)
      (same : registers.get register = processor.registers.get register) :
      (registers.set destination value).get register = processor.registers.get register := by
    have different : register ≠ destination := by
      rintro rfl
      exact other (Register.eq_name_of_ofName? known ▸ written)
    rw [Registers.get_set_of_ne registers different, same]
  rw [Processor.processor_step]
  exact Processor.keeps_advance kept processor rfl

/-- A register that is never a destination keeps its number to the end of a run. -/
theorem Processor.get_runSteps_of_ne {program : Program Float} {register : Register}
    (other : ∀ step ∈ program, step.instruction.destination? ≠ some register.name)
    (processor : Processor) :
    (processor.runSteps program).processor.registers.get register =
      processor.registers.get register := by
  induction program generalizing processor with
  | nil => rfl
  | cons step rest ih =>
      have first := Processor.get_step_of_ne (other step List.mem_cons_self) processor
      have later := ih (fun next member => other next (List.mem_cons_of_mem step member))
        (processor.step step).processor
      rw [Processor.runSteps_cons, Run.andThen]
      cases (processor.step step).failure? with
      | some failure => exact first
      | none => exact later.trans first

/-- The destination is one of the names of an instruction. -/
theorem Instruction.mem_names_of_destination? {Value : Type} {instruction : Instruction Value}
    {name : String} (written : instruction.destination? = some name) :
    name ∈ instruction.names := by
  cases instruction with
  | compare | out => cases written
  | load | move | increment | decrement | add | subtract =>
      cases written
      simp [Instruction.names]

end RegisterMachine
