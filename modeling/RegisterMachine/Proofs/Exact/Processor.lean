/-
This file defines a processor that computes with integers and never rounds.
It runs the program as it is spelled, so a literal stands for the integer of its digits.
-/

import RegisterMachine.Literal
import RegisterMachine.Proofs.Number.Integral
import RegisterMachine.Processor

namespace RegisterMachine
open Number

/-- An exact processor holds an integer of any size in each register. -/
structure ExactProcessor where
  registers : Register → Int
  flags : Flags
  debug : Bool

/-- The exact comparison follows the order of the integers. -/
def Comparison.holds (comparison : Comparison) (left right : Int) : Bool :=
  match comparison with
  | .greaterThan => decide (right < left)
  | .lessThan => decide (left < right)
  | .equals => decide (left = right)

/-- An operand stands for the integer of its register or of its digits. -/
def ExactProcessor.value (exact : ExactProcessor) : Operand Literal → Except RegisterError Int
  | .register name => (Registers.resolve name).map exact.registers
  | .literal literal => .ok literal.toInt

/-- An exact processor starts with zeros and clear flags. -/
def ExactProcessor.start (debug : Bool) : ExactProcessor :=
  ⟨fun _ => 0, {}, debug⟩

/-- This function writes one register and keeps the others. -/
def ExactProcessor.set (exact : ExactProcessor) (register : Register) (integer : Int) :
    ExactProcessor :=
  { exact with registers := Function.update exact.registers register integer }

/-- The update combines the integer in the named register with an incoming one. -/
def ExactProcessor.update (exact : ExactProcessor) (combine : Int → Int → Int) (name : String)
    (integer : Int) : Except RegisterError ExactProcessor := do
  let register ← Registers.resolve name
  return exact.set register (combine (exact.registers register) integer)

/-- An operand is read before the register that it changes is looked up. -/
def ExactProcessor.updateFrom (exact : ExactProcessor) (combine : Int → Int → Int) (name : String)
    (operand : Operand Literal) : Except RegisterError ExactProcessor := do
  let integer ← exact.value operand
  exact.update combine name integer

/-- A comparison reads both operands in order and writes one flag. -/
def ExactProcessor.compare (exact : ExactProcessor) (comparison : Comparison)
    (left right : Operand Literal) : Except RegisterError ExactProcessor := do
  let first ← exact.value left
  let second ← exact.value right
  return { exact with flags := exact.flags.set comparison.flag (comparison.holds first second) }

/-- The exact instructions add and subtract without a limit. -/
def ExactProcessor.advance (exact : ExactProcessor) :
    Instruction Literal → Except RegisterError ExactProcessor
  | .load register literal => exact.update (fun _ incoming => incoming) register literal.toInt
  | .move source destination =>
      exact.updateFrom (fun _ incoming => incoming) destination (.register source)
  | .increment register => exact.update (· + ·) register 1
  | .decrement register => exact.update (· - ·) register 1
  | .add register operand => exact.updateFrom (· + ·) register operand
  | .subtract register operand => exact.updateFrom (· - ·) register operand
  | .compare comparison left right => exact.compare comparison left right
  | .out _ => .ok exact

/-- A register is handed out as the canonical decimal of its integer. -/
def ExactProcessor.emit (exact : ExactProcessor) : Emission → Record
  | .register name =>
      match Register.ofName? name with
      | some register => ⟨.log, toString (exact.registers register)⟩
      | none => ⟨.error, "Unknown register '" ++ name ++ "'."⟩
  | .flag name =>
      match Flag.ofName? name with
      | some flag => ⟨.log, if exact.flags.get flag then "true" else "false"⟩
      | none => ⟨.error, "Unknown flag '" ++ name ++ "'."⟩
  | .text content => ⟨.log, content⟩

/-- A sentence shows a literal as the canonical decimal of its integer. -/
def ExactProcessor.report? (exact : ExactProcessor) : Instruction Literal → Option Record
  | .out emission => some (exact.emit emission)
  | instruction =>
      if exact.debug then
        (instruction.sentence? (fun literal => toString literal.toInt) exact.flags).map
          (⟨.info, ·⟩)
      else none

/-- An exact failure keeps the position of its step in the program. -/
structure ExactFailure where
  position : Nat
  step : Step Literal
  error : RegisterError

/-- An exact run ends in a state with the records up to its end. -/
structure ExactRun where
  processor : ExactProcessor
  records : List Record
  failure? : Option ExactFailure

/-- The exact run counts the positions from the given one. -/
def ExactProcessor.runFrom (exact : ExactProcessor) (position : Nat) :
    Program Literal → ExactRun
  | [] => ⟨exact, [], none⟩
  | step :: rest =>
      match exact.advance step.instruction with
      | .error error => ⟨exact, [], some ⟨position, step, error⟩⟩
      | .ok after =>
          let later := after.runFrom (position + 1) rest
          { later with records := (after.report? step.instruction).toList ++ later.records }

/-- The exact run of a program starts at its first step. -/
def ExactProcessor.run (exact : ExactProcessor) (program : Program Literal) : ExactRun :=
  exact.runFrom 0 program

/-- The integers of all registers lie within the limit. -/
def ExactProcessor.Within (exact : ExactProcessor) : Prop :=
  ∀ register, (exact.registers register).natAbs ≤ limit

/-- An exact run stays within the limit if its literals and all integers that it stores do. -/
def ExactProcessor.RunsWithin (exact : ExactProcessor) : Program Literal → Prop
  | [] => True
  | step :: rest =>
      (∀ literal ∈ step.instruction.literals, literal.toInt.natAbs ≤ limit) ∧
        match exact.advance step.instruction with
        | .error _ => True
        | .ok after => after.Within ∧ after.RunsWithin rest

theorem ExactProcessor.registers_set (exact : ExactProcessor) (register other : Register)
    (integer : Int) :
    (exact.set register integer).registers other =
      if other = register then integer else exact.registers other :=
  Function.update_apply exact.registers register integer other

instance (exact : ExactProcessor) : Decidable exact.Within :=
  decidable_of_iff (∀ register ∈ Register.all, (exact.registers register).natAbs ≤ limit)
    ⟨fun all register => all register register.mem_all, fun within register _ => within register⟩

instance decidableRunsWithin : (exact : ExactProcessor) → (program : Program Literal) →
    Decidable (exact.RunsWithin program)
  | _, [] => isTrue trivial
  | exact, step :: rest =>
      match found : exact.advance step.instruction with
      | .error _ =>
          decidable_of_iff (∀ literal ∈ step.instruction.literals, literal.toInt.natAbs ≤ limit)
            (by simp [ExactProcessor.RunsWithin, found])
      | .ok after =>
          have := decidableRunsWithin after rest
          decidable_of_iff ((∀ literal ∈ step.instruction.literals,
              literal.toInt.natAbs ≤ limit) ∧ after.Within ∧ after.RunsWithin rest)
            (by simp [ExactProcessor.RunsWithin, found])

end RegisterMachine
