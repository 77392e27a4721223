/-
This file moves the line numbers of everything that is read and assembled, and of the messages.
Reading and assembling use the number of a line only to copy it, so they commute with moving it.
-/

import RegisterMachine.Event
import RegisterMachine.Proofs.Source.Line

namespace RegisterMachine

/-- A shifted token stands the given count of lines later. -/
def Token.shift (count : Nat) (token : Token) : Token :=
  { token with line := token.line + count }

def LexicalError.shift (count : Nat) (error : LexicalError) : LexicalError :=
  { error with line := error.line + count }

def AssemblyError.shift (count : Nat) (error : AssemblyError) : AssemblyError :=
  { error with line := error.line + count }

def Step.shift {Value : Type} (count : Nat) (step : Step Value) : Step Value :=
  { step with line := step.line + count }

/-- A shifted reading has found the same on a later line. -/
def Reading.shift (count : Nat) (reading : Reading) : Reading :=
  ⟨reading.errors.map (LexicalError.shift count), reading.token?.map (Token.shift count)⟩

/-- A shifted outcome is the same outcome of a later token. -/
def Assembly.shift (count : Nat) : Assembly → Assembly
  | .skipped token => .skipped (token.shift count)
  | .rejected error => .rejected (error.shift count)
  | .assembled step => .assembled (step.shift count)

/-- The first number in a message is the number of its line, and the rest of the text is kept. -/
def shiftMessage (count : Nat) (message : String) : String :=
  let before := message.toList.takeWhile fun char => !char.isDigit
  let numbered := message.toList.dropWhile fun char => !char.isDigit
  let line := Nat.ofDigitChars 10 (numbered.takeWhile Char.isDigit) 0
  String.ofList (before ++ Nat.toDigits 10 (line + count) ++ numbered.dropWhile Char.isDigit)

/-- A shifted record reports the same about a later line. -/
def Record.shift (count : Nat) (record : Record) : Record :=
  { record with message := shiftMessage count record.message }

/-- The digits of the line number end before the bracket behind them. -/
theorem shiftMessage_numbered (count line : Nat) (rest : String) :
    shiftMessage count ("[ln: " ++ toString line ++ "] " ++ rest) =
      "[ln: " ++ toString (line + count) ++ "] " ++ rest := by
  have spelled (number : Nat) : ("[ln: " ++ toString number ++ "] " ++ rest).toList =
      "[ln: ".toList ++ (Nat.toDigits 10 number ++ ']' :: ' ' :: rest.toList) := by
    simp [Nat.toString_eq_repr, Nat.toList_repr]
  have digits : ∀ char ∈ Nat.toDigits 10 line, char.isDigit = true :=
    fun char member => Nat.isDigit_of_mem_toDigits (by decide) (by decide) member
  have opening : ∀ char ∈ "[ln: ".toList, (!char.isDigit) = true := by decide
  obtain ⟨first, later, same⟩ :=
    List.exists_cons_of_ne_nil (Nat.toDigits_ne_nil (n := line) (b := 10))
  have started : first.isDigit = true := digits first (same ▸ List.mem_cons_self)
  have before : (("[ln: " ++ toString line ++ "] " ++ rest).toList.takeWhile
      fun char => !char.isDigit) = "[ln: ".toList := by
    rw [spelled, List.takeWhile_append_of_pos opening, same, List.cons_append,
      List.takeWhile_cons_of_neg (by simp [started]), List.append_nil]
  have numbered : (("[ln: " ++ toString line ++ "] " ++ rest).toList.dropWhile
      fun char => !char.isDigit) = Nat.toDigits 10 line ++ ']' :: ' ' :: rest.toList := by
    rw [spelled, List.dropWhile_append_of_pos opening, same, List.cons_append,
      List.dropWhile_cons_of_neg (by simp [started])]
  have closed : ']'.isDigit = false := by decide
  apply String.toList_injective
  rw [shiftMessage, before, numbered, List.takeWhile_append_of_pos digits,
    List.dropWhile_append_of_pos digits, spelled, String.toList_ofList]
  simp [closed]

theorem LexicalError.message_shift (count : Nat) (error : LexicalError) :
    (error.shift count).message = shiftMessage count error.message :=
  (shiftMessage_numbered count error.line error.cause.message).symm

theorem AssemblyError.message_shift (count : Nat) (error : AssemblyError) :
    (error.shift count).message = shiftMessage count error.message := by
  have numbered := shiftMessage_numbered count error.line
    (error.cause.message ++ " - `" ++ error.argument.display ++ "`")
  simp only [← String.append_assoc] at numbered
  exact numbered.symm

theorem Reading.ofCode_add (line count : Nat) (code : List Char) :
    Reading.ofCode (line + count) code = (Reading.ofCode line code).shift count := by
  simp only [Reading.ofCode]
  split
  · rfl
  · simp only [Reading.shift, List.map_map, Option.map_some]
    rfl

/-- A line is read in the same way wherever it stands. -/
theorem Reading.ofLine_add (line count : Nat) (text : List Char) :
    Reading.ofLine (line + count) text = (Reading.ofLine line text).shift count := by
  cases code : lineCode text with
  | nil =>
      rw [Reading.ofLine_of_blank code, Reading.ofLine_of_blank code]
      rfl
  | cons char rest =>
      by_cases comment : char = ';'
      · subst comment
        rw [Reading.ofLine_of_comment code, Reading.ofLine_of_comment code]
        rfl
      · rw [Reading.ofLine_of_code code comment, Reading.ofLine_of_code code comment]
        exact Reading.ofCode_add line count (char :: rest)

theorem Argument.asRegister_add (line count : Nat) (argument : Argument) :
    argument.asRegister (line + count) =
      (argument.asRegister line).mapError (AssemblyError.shift count) := by
  obtain ⟨kind, value⟩ := argument
  cases kind <;> rfl

theorem Argument.asLiteral_add (line count : Nat) (argument : Argument) :
    argument.asLiteral (line + count) =
      (argument.asLiteral line).mapError (AssemblyError.shift count) := by
  obtain ⟨kind, value⟩ := argument
  cases kind with
  | literal =>
      simp only [Argument.asLiteral]
      cases Literal.ofText? value <;> rfl
  | register | string | flag => rfl

theorem Argument.asOperand_add (line count : Nat) (argument : Argument) :
    argument.asOperand (line + count) =
      (argument.asOperand line).mapError (AssemblyError.shift count) := by
  obtain ⟨kind, value⟩ := argument
  cases kind with
  | literal =>
      simp only [Argument.asOperand, Argument.asLiteral_add]
      cases Argument.asLiteral line ⟨.literal, value⟩ <;> rfl
  | register | string | flag => rfl

/-- The first error of two attempts is changed wherever it comes from. -/
theorem mapError_bind {Error Other Value Next : Type} (f : Error → Other)
    (first : Except Error Value) (next : Value → Except Error Next) :
    (first >>= next).mapError f = (first.mapError f) >>= fun value => (next value).mapError f := by
  cases first <;> rfl

theorem assembleComparison_add (line count : Nat) (comparison : Comparison)
    (first second : Argument) :
    assembleComparison (line + count) comparison first second =
      (assembleComparison line comparison first second).mapError (AssemblyError.shift count) := by
  simp only [assembleComparison, Argument.asOperand_add, mapError_bind]
  rfl

/-- An instruction does not hold its line, and an error about it does. -/
theorem Token.instruction?_shift (count : Nat) (token : Token) :
    (token.shift count).instruction? =
      token.instruction?.map fun made => made.mapError (AssemblyError.shift count) := by
  obtain ⟨line, opcode, arguments⟩ := token
  rcases arguments with _ | ⟨first, _ | ⟨second, rest⟩⟩ <;> cases opcode <;>
    simp only [Token.shift, Token.instruction?, Argument.asRegister_add, Argument.asLiteral_add,
      Argument.asOperand_add, assembleComparison_add, mapError_bind, Option.map_some,
      Option.map_none] <;> rfl

theorem Assembly.ofToken_shift (count : Nat) (token : Token) :
    Assembly.ofToken (token.shift count) = (Assembly.ofToken token).shift count := by
  rw [Assembly.ofToken, Assembly.ofToken, Token.instruction?_shift]
  rcases token.instruction? with _ | (error | instruction) <;> rfl

/-- The record of a rejected token names the line of the token. -/
theorem Assembly.records_shift (count : Nat) (assembly : Assembly) :
    (assembly.shift count).events.filterMap Event.record? =
      (assembly.events.filterMap Event.record?).map (Record.shift count) := by
  cases assembly with
  | skipped token => rfl
  | rejected error =>
      change [Record.mk .error (error.shift count).message] = _
      rw [AssemblyError.message_shift]
      rfl
  | assembled step => rfl

end RegisterMachine
