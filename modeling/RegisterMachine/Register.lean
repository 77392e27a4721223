/-
This file lists the fourteen registers and their names.
A register has a one-letter name and a kind, and the kind gives its nominal width.
-/

import RegisterMachine.Lookup

namespace RegisterMachine

/-- The kind of a register describes the numbers it is meant for and restricts none. -/
inductive Register.Kind where
  | signedByte
  | unsignedByte
  | float
  | long
  deriving DecidableEq

/-- The nominal width counts bits. -/
def Register.Kind.bits : Register.Kind → Nat
  | .signedByte => 8
  | .unsignedByte => 8
  | .float => 32
  | .long => 64

/-- The machine has exactly these registers. -/
inductive Register where
  | a | b | c | d | e | f | g | h
  | i | j | k | l
  | m
  | n
  deriving DecidableEq

/-- The list holds each register once, in the order of the letters. -/
def Register.all : List Register :=
  [.a, .b, .c, .d, .e, .f, .g, .h, .i, .j, .k, .l, .m, .n]

/-- The letter is the whole name of a register. -/
def Register.letter : Register → Char
  | .a => 'a'
  | .b => 'b'
  | .c => 'c'
  | .d => 'd'
  | .e => 'e'
  | .f => 'f'
  | .g => 'g'
  | .h => 'h'
  | .i => 'i'
  | .j => 'j'
  | .k => 'k'
  | .l => 'l'
  | .m => 'm'
  | .n => 'n'

/-- The name is the letter as a text. -/
def Register.name (register : Register) : String :=
  String.singleton register.letter

/-- The first eight registers hold signed bytes and the next four unsigned bytes. -/
def Register.kind : Register → Register.Kind
  | .a | .b | .c | .d | .e | .f | .g | .h => .signedByte
  | .i | .j | .k | .l => .unsignedByte
  | .m => .float
  | .n => .long

/-- The position of a register is the distance of its letter from the first letter. -/
def Register.index (register : Register) : Fin 14 :=
  ⟨register.letter.toNat - 'a'.toNat, by cases register <;> decide⟩

/-- The byte of a register is the code of its letter. -/
def Register.byte (register : Register) : UInt8 :=
  register.letter.toUInt8

/-- This function finds the register with the given letter. -/
def Register.ofLetter? (letter : Char) : Option Register :=
  Register.all.find? fun register => register.letter == letter

/-- This function finds the register with the given byte. -/
def Register.ofByte? (byte : UInt8) : Option Register :=
  Register.all.find? fun register => register.byte == byte

/-- A name of one letter can denote a register, and no other name does. -/
def Register.ofName? (name : String) : Option Register :=
  match name.toList with
  | [letter] => Register.ofLetter? letter
  | _ => none

theorem Register.mem_all (register : Register) : register ∈ Register.all := by
  cases register <;> decide

theorem Register.letter_injective {first second : Register}
    (same : first.letter = second.letter) : first = second := by
  cases first <;> cases second <;> first | rfl | exact absurd same (by decide)

theorem Register.index_injective {first second : Register}
    (same : first.index = second.index) : first = second := by
  cases first <;> cases second <;> first | rfl | exact absurd same (by decide)

theorem Register.exists_index (position : Fin 14) :
    ∃ register : Register, register.index = position := by
  refine ⟨Register.all.get ⟨position.val, position.isLt⟩, ?_⟩
  revert position
  decide

theorem Register.ofLetter?_eq_some_iff {letter : Char} {register : Register} :
    Register.ofLetter? letter = some register ↔ letter = register.letter :=
  find?_key_eq_some_iff Register.mem_all Register.letter_injective

/-- A name denotes a register exactly when it is that register's letter. -/
theorem Register.ofName?_eq_some_iff {name : String} {register : Register} :
    Register.ofName? name = some register ↔ name.toList = [register.letter] := by
  unfold Register.ofName?
  split
  · next letter single =>
      rw [Register.ofLetter?_eq_some_iff, single]
      simp
  · next other =>
      constructor
      · intro impossible
        cases impossible
      · intro single
        exact absurd single (other register.letter)

theorem Register.eq_name_of_ofName? {name : String} {register : Register}
    (found : Register.ofName? name = some register) : name = register.name := by
  rw [← String.toList_inj, Register.ofName?_eq_some_iff.mp found, Register.name,
    String.toList_singleton]

@[simp] theorem Register.ofName?_name (register : Register) :
    Register.ofName? register.name = some register :=
  Register.ofName?_eq_some_iff.mpr (by simp [Register.name])

theorem Register.name_injective {first second : Register}
    (same : first.name = second.name) : first = second := by
  have found := first.ofName?_name
  rw [same, Register.ofName?_name] at found
  exact (Option.some.inj found).symm

end RegisterMachine
