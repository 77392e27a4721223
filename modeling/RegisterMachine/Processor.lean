/-
This file executes instructions.
An instruction changes the registers or one flag, and it may fail before it does so.
-/

import RegisterMachine.Instruction
import RegisterMachine.Record
import RegisterMachine.Registers

namespace RegisterMachine

/-- The debug setting decides what is reported and nothing else. -/
structure Processor where
  registers : Registers
  flags : Flags
  debug : Bool

/-- A processor starts with clear registers and flags. -/
def Processor.start (debug : Bool) : Processor :=
  ⟨Registers.zero, {}, debug⟩

/-- A reset clears the registers and the flags and keeps the debug setting. -/
def Processor.reset (processor : Processor) : Processor :=
  Processor.start processor.debug

/-- The comparison of a literal with a register is made from the side of the register. -/
def Processor.compare (processor : Processor) (comparison : Comparison)
    (left right : Operand Float) : Except RegisterError Bool :=
  match left, right with
  | .register first, .register second =>
      processor.registers.compareRegisters first comparison second
  | .register name, .literal value =>
      processor.registers.compareRegisterValue name comparison value
  | .literal value, .register name =>
      processor.registers.compareRegisterValue name comparison.flipped value
  | .literal first, .literal second => Registers.compareValues first comparison second

/-- A change of the registers keeps the flags and the debug setting. -/
def Processor.onRegisters (change : Change Registers Unit) : Change Processor Unit :=
  ExceptT.mk fun processor =>
    let (result, registers) := change.on processor.registers
    (result, { processor with registers })

/-- The change of the state does not depend on the debug setting. -/
def Processor.advance : Instruction Float → Change Processor Unit
  | .load register value => Processor.onRegisters (Registers.write register value)
  | .move source destination => Processor.onRegisters (Registers.move source destination)
  | .increment register => Processor.onRegisters (Registers.increment register)
  | .decrement register => Processor.onRegisters (Registers.decrement register)
  | .add register (.register source) =>
      Processor.onRegisters (Registers.addRegister register source)
  | .add register (.literal value) => Processor.onRegisters (Registers.addValue register value)
  | .subtract register (.register source) =>
      Processor.onRegisters (Registers.subtractRegister register source)
  | .subtract register (.literal value) =>
      Processor.onRegisters (Registers.subtractValue register value)
  | .compare comparison left right => do
      let result ← (← getThe Processor).compare comparison left right
      modify fun processor =>
        { processor with flags := processor.flags.set comparison.flag result }
  | .out _ => pure ()

/-- An unknown name makes an error record and no failure. -/
def Processor.emit (processor : Processor) : Emission → Record
  | .register name =>
      match Register.ofName? name with
      | some register => ⟨.log, Number.plain (processor.registers.get register)⟩
      | none => ⟨.error, "Unknown register '" ++ name ++ "'."⟩
  | .flag name =>
      match Flag.ofName? name with
      | some flag => ⟨.log, if processor.flags.get flag then "true" else "false"⟩
      | none => ⟨.error, "Unknown flag '" ++ name ++ "'."⟩
  | .text content => ⟨.log, content⟩

/-- A sentence shows an operand without its sigil. -/
def Operand.plain {Value : Type} (write : Value → String) : Operand Value → String
  | .register name => name
  | .literal value => write value

/-- The sentence of a comparison reads the result from the flag that has just been written. -/
def Instruction.sentence? {Value : Type} (write : Value → String) (flags : Flags) :
    Instruction Value → Option String
  | .load register value =>
      some ("Wrote '" ++ write value ++ "' to register '" ++ register ++ "'.")
  | .move source destination =>
      some ("Moved '" ++ source ++ "' to register '" ++ destination ++ "'.")
  | .increment register => some ("Incremented register '" ++ register ++ "'.")
  | .decrement register => some ("Decremented register '" ++ register ++ "'.")
  | .add register operand =>
      some ("Added '" ++ operand.plain write ++ "' to register '" ++ register ++ "'.")
  | .subtract register operand =>
      some ("Subtracted '" ++ operand.plain write ++ "' from register '" ++ register ++ "'.")
  | .compare comparison left right =>
      some ("'" ++ left.plain write ++ "' is " ++
        (if flags.get comparison.flag then "" else "not ") ++ comparison.relation ++ " '" ++
        right.plain write ++ "'.")
  | .out _ => none

/-- An output instruction always makes a record, and any other only in debug mode. -/
def Processor.report? (processor : Processor) : Instruction Float → Option Record
  | .out emission => some (processor.emit emission)
  | instruction =>
      if processor.debug then
        (instruction.sentence? Number.plain processor.flags).map (⟨.info, ·⟩)
      else none

/-- The record of an instruction describes the state after it. -/
def Processor.execute (instruction : Instruction Float) : Change Processor (Option Record) := do
  Processor.advance instruction
  return (← getThe Processor).report? instruction

end RegisterMachine
