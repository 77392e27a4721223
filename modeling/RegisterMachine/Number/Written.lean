/-
This file writes a number as text.
The digits are the fewest that read back as the number, and the notation is always positional.
-/

import RegisterMachine.Number.Binary
import RegisterMachine.Number.Shortest

namespace RegisterMachine.Number

/-- The fraction has one digit for each place, less the zeros at its end. -/
def fractionDigits (places remainder : Nat) : List Char :=
  let digits := Nat.toDigits 10 remainder
  let padded := List.replicate (places - digits.length) '0' ++ digits
  (padded.reverse.dropWhile (· == '0')).reverse

/-- A point separates the whole part from a fraction that is not empty. -/
def positional (places decimal : Nat) : List Char :=
  let whole := Nat.toDigits 10 (decimal / Nat.pow 10 places)
  let fraction := fractionDigits places (decimal % Nat.pow 10 places)
  if fraction = [] then whole else whole ++ '.' :: fraction

/-- The magnitude of a finite number is written with its shortest decimal. -/
def writeMagnitude (significand exponent : Nat) : List Char :=
  if significand = 0 then ['0']
  else positional (decimalPlaces exponent) (RoundingInterval.ofBinary significand exponent).shortest

/-- A minus sign marks each negative number, negative zero among them. -/
def writeSign (negative : Bool) : List Char :=
  if negative then ['-'] else []

/-- This function writes a decoded number. -/
def Decoded.write : Decoded → List Char
  | .notNumber => ['N', 'a', 'N']
  | .infinite negative => writeSign negative ++ ['i', 'n', 'f']
  | .finite negative significand exponent =>
      writeSign negative ++ writeMagnitude significand exponent

/-- The full text of a number keeps the sign of zero. -/
def written (value : Float) : String :=
  String.ofList (decode value).write

/-- The plain text of a number is the same for both zeros. -/
def plain (value : Float) : String :=
  if value == 0.0 then "0" else written value

end RegisterMachine.Number
