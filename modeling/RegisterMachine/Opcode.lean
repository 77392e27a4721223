/-
This file lists the ten opcodes.
Each opcode is written as a mnemonic of three letters and reads a fixed count of arguments.
-/

import RegisterMachine.Lookup

namespace RegisterMachine

/-- An opcode says what a line of source does. -/
inductive Opcode where
  | load
  | move
  | increment
  | decrement
  | add
  | subtract
  | greaterThan
  | lessThan
  | equals
  | out
  deriving DecidableEq

/-- The list holds each opcode once. -/
def Opcode.all : List Opcode :=
  [.load, .move, .increment, .decrement, .add, .subtract, .greaterThan, .lessThan, .equals, .out]

/-- The mnemonic is the spelling of an opcode in the source. -/
def Opcode.mnemonic : Opcode → String
  | .load => "lod"
  | .move => "mov"
  | .increment => "inc"
  | .decrement => "dec"
  | .add => "add"
  | .subtract => "sub"
  | .greaterThan => "grt"
  | .lessThan => "lst"
  | .equals => "equ"
  | .out => "out"

/-- Only the exact mnemonic denotes an opcode. -/
def Opcode.ofMnemonic? (text : String) : Option Opcode :=
  Opcode.all.find? fun opcode => opcode.mnemonic == text

/-- The arity is the count of arguments that an instruction reads. -/
def Opcode.arity : Opcode → Nat
  | .increment | .decrement | .out => 1
  | .load | .move | .add | .subtract | .greaterThan | .lessThan | .equals => 2

theorem Opcode.mem_all (opcode : Opcode) : opcode ∈ Opcode.all := by
  cases opcode <;> decide

theorem Opcode.mnemonic_injective {first second : Opcode}
    (same : first.mnemonic = second.mnemonic) : first = second := by
  cases first <;> cases second <;> first | rfl | exact absurd same (by decide)

theorem Opcode.ofMnemonic?_eq_some_iff {text : String} {opcode : Opcode} :
    Opcode.ofMnemonic? text = some opcode ↔ text = opcode.mnemonic :=
  find?_key_eq_some_iff Opcode.mem_all Opcode.mnemonic_injective

theorem Opcode.length_mnemonic (opcode : Opcode) : opcode.mnemonic.toList.length = 3 := by
  cases opcode <;> decide

end RegisterMachine
