/-
This file reads the literals of the source text.
A literal is spelled by a sign, a radix and a run of digits, and whatever follows the run is ignored.
-/

import RegisterMachine.Text.Blank

namespace RegisterMachine

/-- A literal is written in one of four radices. -/
inductive Radix where
  | binary
  | octal
  | decimal
  | hexadecimal
  deriving DecidableEq

/-- The base is the count of different digits. -/
def Radix.base : Radix → Nat
  | .binary => 2
  | .octal => 8
  | .decimal => 10
  | .hexadecimal => 16

/-- The ASCII digits come before the letters, and both cases of a letter count the same. -/
def digitValue? (char : Char) : Option Nat :=
  if '0' ≤ char ∧ char ≤ '9' then some (char.toNat - '0'.toNat)
  else if 'a' ≤ char ∧ char ≤ 'z' then some (char.toNat - 'a'.toNat + 10)
  else if 'A' ≤ char ∧ char ≤ 'Z' then some (char.toNat - 'A'.toNat + 10)
  else none

/-- A digit of a radix is smaller than its base. -/
def Radix.digit? (radix : Radix) (char : Char) : Option Nat :=
  (digitValue? char).filter (· < radix.base)

/-- The run ends before the first character that is no digit. -/
def Radix.digitRun (radix : Radix) : List Char → List Nat
  | [] => []
  | char :: rest =>
      match radix.digit? char with
      | some digit => digit :: radix.digitRun rest
      | none => []

theorem Radix.digit?_lt {radix : Radix} {char : Char} {digit : Nat}
    (found : radix.digit? char = some digit) : digit < radix.base := by
  simp only [Radix.digit?, Option.filter_eq_some_iff, decide_eq_true_eq] at found
  exact found.2

theorem Radix.digitRun_lt (radix : Radix) (text : List Char) :
    ∀ digit ∈ radix.digitRun text, digit < radix.base := by
  induction text with
  | nil => simp [Radix.digitRun]
  | cons char rest ih =>
      intro digit member
      simp only [Radix.digitRun] at member
      split at member
      · next first found =>
          rcases List.mem_cons.mp member with same | later
          · exact same ▸ Radix.digit?_lt found
          · exact ih digit later
      · cases member

/-- A literal has at least one digit, and each digit belongs to the radix. -/
structure Literal where
  negative : Bool
  radix : Radix
  digits : List Nat
  nonempty : digits ≠ []
  withinRadix : ∀ digit ∈ digits, digit < radix.base
  deriving DecidableEq

/-- A leading minus makes a literal negative, and a leading plus changes nothing. -/
def takeSign : List Char → Bool × List Char
  | '-' :: rest => (true, rest)
  | '+' :: rest => (false, rest)
  | text => (false, text)

/-- A zero and a small letter choose the radix even if no digit follows them. -/
def takeRadix : List Char → Radix × List Char
  | '0' :: 'b' :: rest => (.binary, rest)
  | '0' :: 'o' :: rest => (.octal, rest)
  | '0' :: 'x' :: rest => (.hexadecimal, rest)
  | text => (.decimal, text)

/-- A text without a digit in this place is no literal. -/
def Literal.ofChars? (text : List Char) : Option Literal :=
  let (negative, unsigned) := takeSign (Text.trim text)
  let (radix, body) := takeRadix unsigned
  if run : radix.digitRun body = [] then none
  else some ⟨negative, radix, radix.digitRun body, run, radix.digitRun_lt body⟩

/-- This function reads a literal from a text. -/
def Literal.ofText? (text : String) : Option Literal :=
  Literal.ofChars? text.toList

/-- The magnitude is the natural number that the digits spell. -/
def Literal.magnitude (literal : Literal) : Nat :=
  literal.digits.foldl (fun total digit => total * literal.radix.base + digit) 0

/-- The integer of a literal is exact. -/
def Literal.toInt (literal : Literal) : Int :=
  if literal.negative then -(literal.magnitude : Int) else literal.magnitude

/-- The rounded magnitude takes in the digits from left to right and rounds after each step. -/
def Literal.roundedMagnitude (literal : Literal) : Float :=
  literal.digits.foldl
    (fun total digit => total * Float.ofNat literal.radix.base + Float.ofNat digit) 0

/-- The number of a literal is negative zero when a minus stands before zeros. -/
def Literal.toFloat (literal : Literal) : Float :=
  if literal.negative then -literal.roundedMagnitude else literal.roundedMagnitude

end RegisterMachine
