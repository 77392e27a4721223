/-
This file defines tokens, which are an opcode with its arguments and the line they stand on.
A sigil before each argument says what kind of argument it is.
-/

import RegisterMachine.Opcode

namespace RegisterMachine

/-- An argument is a register name, a literal, a string or a flag name. -/
inductive Argument.Kind where
  | register
  | literal
  | string
  | flag
  deriving DecidableEq

/-- The list holds each kind once. -/
def Argument.Kind.all : List Argument.Kind :=
  [.register, .literal, .string, .flag]

/-- The sigil is the first character of an argument in the source. -/
def Argument.Kind.sigil : Argument.Kind → Char
  | .register => '$'
  | .literal => '!'
  | .string => '"'
  | .flag => '%'

/-- The byte of a kind is the code of its sigil. -/
def Argument.Kind.byte (kind : Argument.Kind) : UInt8 :=
  kind.sigil.toUInt8

/-- This function finds the kind with the given sigil. -/
def Argument.Kind.ofSigil? (sigil : Char) : Option Argument.Kind :=
  Argument.Kind.all.find? fun kind => kind.sigil == sigil

/-- This function finds the kind with the given byte. -/
def Argument.Kind.ofByte? (byte : UInt8) : Option Argument.Kind :=
  Argument.Kind.all.find? fun kind => kind.byte == byte

/-- The value of an argument is its text without the sigil. -/
structure Argument where
  kind : Argument.Kind
  value : String
  deriving DecidableEq

/-- A string is displayed between quotes, and any other argument behind its sigil. -/
def Argument.display : Argument → String
  | ⟨.string, value⟩ => "\"" ++ value ++ "\""
  | ⟨kind, value⟩ => String.singleton kind.sigil ++ value

/-- A blank precedes the first argument, and a comma and a blank precede each later one. -/
def Argument.displayAll : List Argument → String
  | [] => ""
  | first :: rest => " " ++ first.display ++ String.join (rest.map fun next => ", " ++ next.display)

/-- A token is one line of source that names an opcode. -/
structure Token where
  line : Nat
  opcode : Opcode
  arguments : List Argument
  deriving DecidableEq

/-- The display of a token is a line of source without comments or spare blanks. -/
def Token.display (token : Token) : String :=
  token.opcode.mnemonic ++ Argument.displayAll token.arguments

theorem Argument.Kind.mem_all (kind : Argument.Kind) : kind ∈ Argument.Kind.all := by
  cases kind <;> decide

theorem Argument.Kind.sigil_injective {first second : Argument.Kind}
    (same : first.sigil = second.sigil) : first = second := by
  cases first <;> cases second <;> first | rfl | exact absurd same (by decide)

theorem Argument.Kind.ofSigil?_eq_some_iff {sigil : Char} {kind : Argument.Kind} :
    Argument.Kind.ofSigil? sigil = some kind ↔ sigil = kind.sigil :=
  find?_key_eq_some_iff Argument.Kind.mem_all Argument.Kind.sigil_injective

end RegisterMachine
