/-
This file says what each instruction does, in terms of the names and numbers that it reads.
The forms of an instruction with a register and with a literal then have one outcome.
-/

import RegisterMachine.Proofs.Execution.Atomicity

namespace RegisterMachine

/-- The number of an operand is read from its register or from the instruction itself. -/
def Registers.value (registers : Registers) : Operand Float → Except RegisterError Float
  | .register name => registers.read name
  | .literal value => .ok value

theorem Registers.resolve_of_none {name : String} (unknown : Register.ofName? name = none) :
    Registers.resolve name = .error (.unknownRegister name) := by
  rw [Registers.resolve, unknown]

theorem Registers.resolve_of_some {name : String} {register : Register}
    (known : Register.ofName? name = some register) : Registers.resolve name = .ok register := by
  rw [Registers.resolve, known]

theorem Registers.validate_of_not_isNaN {value : Float} (number : value.isNaN = false) :
    Registers.validate value = .ok value := by
  rw [Registers.validate, number]
  rfl

/-- An update of a named register with a number changes that register alone. -/
theorem Registers.on_update {name : String} {register : Register} {value : Float}
    (known : Register.ofName? name = some register) (number : value.isNaN = false)
    (combine : Float → Float → Float) (registers : Registers) :
    (Registers.update combine name value).on registers =
      (.ok (), registers.set register (combine (registers.get register) value)) := by
  rw [Registers.update, Change.on_bind, Change.on_lift, Registers.resolve_of_some known]
  simp only [Change.on_bind, Change.on_lift, Registers.validate_of_not_isNaN number,
    Change.on_modify]

theorem Registers.on_update_of_none {name : String} (unknown : Register.ofName? name = none)
    (combine : Float → Float → Float) (value : Float) (registers : Registers) :
    (Registers.update combine name value).on registers =
      (.error (.unknownRegister name), registers) := by
  rw [Registers.update, Change.on_bind, Change.on_lift, Registers.resolve_of_none unknown]

/-- A NaN is refused after the name has been looked up. -/
theorem Registers.on_update_of_isNaN {name : String} {register : Register} {value : Float}
    (known : Register.ofName? name = some register) (refused : value.isNaN = true)
    (combine : Float → Float → Float) (registers : Registers) :
    (Registers.update combine name value).on registers =
      (.error (.notANumber value), registers) := by
  rw [Registers.update, Change.on_bind, Change.on_lift, Registers.resolve_of_some known]
  simp only [Change.on_bind, Change.on_lift, Registers.validate, refused, if_true]

/-- A change that reads a register first fails if there is none, and then changes nothing. -/
theorem Registers.on_read_bind (source : String) (next : Float → Change Registers Unit)
    (registers : Registers) :
    Change.on (do
        let value ← (← getThe Registers).read source
        next value) registers =
      match registers.value (.register source) with
      | .ok value => (next value).on registers
      | .error error => (.error error, registers) := by
  rw [Change.on_bind, Change.on_getThe]
  simp only [Change.on_bind, Change.on_lift, Registers.value]
  cases registers.read source <;> rfl

theorem Processor.on_read_bind (source : String) (next : Float → Change Registers Unit)
    (processor : Processor) :
    (Processor.onRegisters (do
        let value ← (← getThe Registers).read source
        next value)).on processor =
      match processor.registers.value (.register source) with
      | .ok value => (Processor.onRegisters (next value)).on processor
      | .error error => (.error error, processor) := by
  rw [Processor.on_onRegisters, Registers.on_read_bind]
  cases processor.registers.value (.register source) <;> rfl

theorem Processor.on_advance_move (source destination : String) (processor : Processor) :
    (Processor.advance (.move source destination)).on processor =
      match processor.registers.value (.register source) with
      | .ok value => (Processor.onRegisters (Registers.write destination value)).on processor
      | .error error => (.error error, processor) :=
  Processor.on_read_bind source (Registers.write destination) processor

/-- An addition reads its operand before it looks up the register that it changes. -/
theorem Processor.on_advance_add (register : String) (operand : Operand Float)
    (processor : Processor) :
    (Processor.advance (.add register operand)).on processor =
      match processor.registers.value operand with
      | .ok value => (Processor.onRegisters (Registers.addValue register value)).on processor
      | .error error => (.error error, processor) := by
  cases operand with
  | register source => exact Processor.on_read_bind source (Registers.addValue register) processor
  | literal value => rfl

theorem Processor.on_advance_subtract (register : String) (operand : Operand Float)
    (processor : Processor) :
    (Processor.advance (.subtract register operand)).on processor =
      match processor.registers.value operand with
      | .ok value => (Processor.onRegisters (Registers.subtractValue register value)).on processor
      | .error error => (.error error, processor) := by
  cases operand with
  | register source =>
      exact Processor.on_read_bind source (Registers.subtractValue register) processor
  | literal value => rfl

/-- A comparison writes its flag if it has a result, and otherwise does nothing. -/
theorem Processor.on_advance_compare (comparison : Comparison) (left right : Operand Float)
    (processor : Processor) :
    (Processor.advance (.compare comparison left right)).on processor =
      match processor.compare comparison left right with
      | .ok result => (.ok (),
          { processor with flags := processor.flags.set comparison.flag result })
      | .error error => (.error error, processor) := by
  rw [Processor.advance, Change.on_bind, Change.on_getThe]
  simp only [Change.on_bind, Change.on_lift]
  cases processor.compare comparison left right <;> rfl

end RegisterMachine
