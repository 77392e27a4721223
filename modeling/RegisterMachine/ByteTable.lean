/-
This file looks up registers and argument kinds by their bytes.
A byte that stands for no member of a table is reported with the name of the table.
-/

import RegisterMachine.Register
import RegisterMachine.Token

namespace RegisterMachine

/-- The error keeps the byte and the table it was looked up in. -/
structure UnassignedByte where
  table : String
  byte : UInt8
  deriving DecidableEq

/-- The message shows the byte as a number. -/
def UnassignedByte.message (error : UnassignedByte) : String :=
  "No discriminant in enum `" ++ error.table ++ "` matches the value `" ++
    toString error.byte.toNat ++ "`"

/-- This function finds a register or reports the byte. -/
def Register.ofByte (byte : UInt8) : Except UnassignedByte Register :=
  match Register.ofByte? byte with
  | some register => .ok register
  | none => .error ⟨"Register", byte⟩

/-- This function finds a kind or reports the byte. -/
def Argument.Kind.ofByte (byte : UInt8) : Except UnassignedByte Argument.Kind :=
  match Argument.Kind.ofByte? byte with
  | some kind => .ok kind
  | none => .error ⟨"ArgumentKind", byte⟩

theorem Register.ofByte_byte (register : Register) :
    Register.ofByte register.byte = .ok register := by
  cases register <;> rfl

theorem Argument.Kind.ofByte_byte (kind : Argument.Kind) :
    Argument.Kind.ofByte kind.byte = .ok kind := by
  cases kind <;> rfl

end RegisterMachine
