/-
This file takes a binary64 number apart.
A finite number is a sign and a whole multiple of a power of two, counted in steps of 2 ^ -1074.
-/

namespace RegisterMachine.Number

/-- A decoded number is exact: no rounding separates it from the stored number. -/
inductive Decoded where
  | notNumber
  | infinite (negative : Bool)
  /-- The magnitude is `significand * 2 ^ exponent` steps of `2 ^ -1074`. -/
  | finite (negative : Bool) (significand exponent : Nat)
  deriving DecidableEq

/-- The stored fields are one sign bit, eleven exponent bits and fifty-two fraction bits. -/
def decodeBits (bits : Nat) : Decoded :=
  -- `Nat.pow` is named, so that no other power is meant where more of them are known.
  let negative := decide (bits / Nat.pow 2 63 % 2 = 1)
  let exponent := bits / Nat.pow 2 52 % Nat.pow 2 11
  let fraction := bits % Nat.pow 2 52
  if exponent = 2047 then
    if fraction = 0 then .infinite negative else .notNumber
  else if exponent = 0 then .finite negative fraction 0
  else .finite negative (Nat.pow 2 52 + fraction) (exponent - 1)

/-- This function decodes a number from its stored bits. -/
def decode (value : Float) : Decoded :=
  decodeBits value.toBits.toNat

end RegisterMachine.Number
