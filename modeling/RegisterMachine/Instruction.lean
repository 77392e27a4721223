/-
This file defines instructions and programs.
The type of their numbers is a parameter, so a program can hold literals as spelled or their values.
-/

import RegisterMachine.Comparison
import RegisterMachine.Number.Written
import RegisterMachine.Token

namespace RegisterMachine

/-- An operand is a register or a number. -/
inductive Operand (Value : Type) where
  | register (name : String)
  | literal (value : Value)
  deriving DecidableEq

/-- An emission says what an output instruction hands out. -/
inductive Emission where
  | register (name : String)
  | flag (name : String)
  | text (content : String)
  deriving DecidableEq

/-- The registers of an instruction are names and need not exist. -/
inductive Instruction (Value : Type) where
  | load (register : String) (value : Value)
  | move (source destination : String)
  | increment (register : String)
  | decrement (register : String)
  | add (register : String) (operand : Operand Value)
  | subtract (register : String) (operand : Operand Value)
  | compare (comparison : Comparison) (left right : Operand Value)
  | out (emission : Emission)
  deriving DecidableEq

/-- A step is an instruction with the number of its source line. -/
structure Step (Value : Type) where
  line : Nat
  instruction : Instruction Value
  deriving DecidableEq

/-- A program is executed from its first step to its last. -/
abbrev Program (Value : Type) := List (Step Value)

/-- The map changes the numbers and keeps the names. -/
def Operand.map {Value Other : Type} (f : Value → Other) : Operand Value → Operand Other
  | .register name => .register name
  | .literal value => .literal (f value)

/-- The map changes the numbers of an instruction and nothing else. -/
def Instruction.map {Value Other : Type} (f : Value → Other) :
    Instruction Value → Instruction Other
  | .load register value => .load register (f value)
  | .move source destination => .move source destination
  | .increment register => .increment register
  | .decrement register => .decrement register
  | .add register operand => .add register (operand.map f)
  | .subtract register operand => .subtract register (operand.map f)
  | .compare comparison left right => .compare comparison (left.map f) (right.map f)
  | .out emission => .out emission

/-- The map keeps the line of a step. -/
def Step.map {Value Other : Type} (f : Value → Other) (step : Step Value) : Step Other :=
  ⟨step.line, step.instruction.map f⟩

/-- An operand has one literal or none. -/
def Operand.literals {Value : Type} : Operand Value → List Value
  | .register _ => []
  | .literal value => [value]

/-- The literals of an instruction stand in the order of its arguments. -/
def Instruction.literals {Value : Type} : Instruction Value → List Value
  | .load _ value => [value]
  | .add _ operand | .subtract _ operand => operand.literals
  | .compare _ left right => left.literals ++ right.literals
  | .move _ _ | .increment _ | .decrement _ | .out _ => []

/-- Each comparison has an opcode of its own. -/
def Comparison.opcode : Comparison → Opcode
  | .greaterThan => .greaterThan
  | .lessThan => .lessThan
  | .equals => .equals

/-- The opcode of an instruction is the one it is assembled from. -/
def Instruction.opcode {Value : Type} : Instruction Value → Opcode
  | .load _ _ => .load
  | .move _ _ => .move
  | .increment _ => .increment
  | .decrement _ => .decrement
  | .add _ _ => .add
  | .subtract _ _ => .subtract
  | .compare comparison _ _ => comparison.opcode
  | .out _ => .out

/-- The argument of an operand spells it. -/
def Operand.argument : Operand Float → Argument
  | .register name => ⟨.register, name⟩
  | .literal value => ⟨.literal, Number.written value⟩

/-- The argument of an emission spells it, and a text is always spelled as a string. -/
def Emission.argument : Emission → Argument
  | .register name => ⟨.register, name⟩
  | .flag name => ⟨.flag, name⟩
  | .text content => ⟨.string, content⟩

/-- The arguments spell the instruction out, with its numbers as literals. -/
def Instruction.arguments : Instruction Float → List Argument
  | .load register value => [⟨.register, register⟩, ⟨.literal, Number.written value⟩]
  | .move source destination => [⟨.register, source⟩, ⟨.register, destination⟩]
  | .increment register => [⟨.register, register⟩]
  | .decrement register => [⟨.register, register⟩]
  | .add register operand => [⟨.register, register⟩, operand.argument]
  | .subtract register operand => [⟨.register, register⟩, operand.argument]
  | .compare _ left right => [left.argument, right.argument]
  | .out emission => [emission.argument]

/-- The token of a step spells the step on its line. -/
def Step.token (step : Step Float) : Token :=
  ⟨step.line, step.instruction.opcode, step.instruction.arguments⟩

/-- An instruction is displayed as the token that spells it. -/
def Instruction.display (instruction : Instruction Float) : String :=
  instruction.opcode.mnemonic ++ Argument.displayAll instruction.arguments

theorem Instruction.literals_map {Value Other : Type} (f : Value → Other)
    (instruction : Instruction Value) :
    (instruction.map f).literals = instruction.literals.map f := by
  have operands (operand : Operand Value) : (operand.map f).literals = operand.literals.map f := by
    cases operand <;> rfl
  cases instruction with
  | add register operand => exact operands operand
  | subtract register operand => exact operands operand
  | compare comparison left right =>
      rw [Instruction.map, Instruction.literals, Instruction.literals, operands, operands,
        List.map_append]
  | load register value => rfl
  | move source destination => rfl
  | increment register => rfl
  | decrement register => rfl
  | out emission => rfl

end RegisterMachine
