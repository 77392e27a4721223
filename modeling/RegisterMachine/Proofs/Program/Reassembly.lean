/-
This file proves that the token of an instruction is assembled into the instruction again.
It holds for every instruction whose numbers denote integers within the limit.
-/

import RegisterMachine.Assembly
import RegisterMachine.Proofs.Number.Spelled
import RegisterMachine.Proofs.Source.Image

namespace RegisterMachine
open Number

/-- A number is integral if it denotes an integer within the limit. -/
def Number.Integral (value : Float) : Prop :=
  ∃ integer : Int, Denotes value integer ∧ integer.natAbs ≤ limit

theorem Argument.asLiteral_written {value : Float} (integral : Integral value) (line : Nat) :
    ∃ literal, Argument.asLiteral line ⟨.literal, written value⟩ = .ok literal ∧
      literal.toFloat = value := by
  obtain ⟨integer, denotes, within⟩ := integral
  obtain ⟨literal, read, same⟩ := Literal.ofText?_written denotes within
  exact ⟨literal, by simp only [Argument.asLiteral, read], same⟩

theorem Operand.asOperand_argument {operand : Operand Float}
    (integral : ∀ value ∈ operand.literals, Integral value) (line : Nat) :
    ∃ spelled, operand.argument.asOperand line = .ok spelled ∧
      spelled.map Literal.toFloat = operand := by
  cases operand with
  | register name => exact ⟨.register name, rfl, rfl⟩
  | literal value =>
      obtain ⟨literal, read, rfl⟩ :=
        Argument.asLiteral_written (integral value List.mem_cons_self) line
      refine ⟨.literal literal, ?_, rfl⟩
      simp only [Operand.argument, Argument.asOperand, read, Except.map]

theorem Emission.asEmission_argument (emission : Emission) :
    emission.argument.asEmission = emission := by
  cases emission <;> rfl

/-- The displayed operands of a comparison are assembled into the comparison. -/
theorem assembleComparison_arguments {left right : Operand Float}
    (integral : ∀ value ∈ left.literals ++ right.literals, Integral value) (line : Nat)
    (comparison : Comparison) :
    ∃ spelled, assembleComparison line comparison left.argument right.argument = .ok spelled ∧
      spelled.map Literal.toFloat = .compare comparison left right := by
  obtain ⟨first, readFirst, rfl⟩ := Operand.asOperand_argument
    (fun value member => integral value (List.mem_append_left _ member)) line
  obtain ⟨second, readSecond, rfl⟩ := Operand.asOperand_argument
    (fun value member => integral value (List.mem_append_right _ member)) line
  refine ⟨.compare comparison first second, ?_, rfl⟩
  rw [assembleComparison, readFirst, readSecond]
  rfl

/-- The token of an instruction is assembled into an instruction with the same numbers. -/
theorem Instruction.instruction?_token {instruction : Instruction Float}
    (integral : ∀ value ∈ instruction.literals, Integral value) (line : Nat) :
    ∃ spelled, Token.instruction? ⟨line, instruction.opcode, instruction.arguments⟩ =
        some (.ok spelled) ∧ spelled.map Literal.toFloat = instruction := by
  cases instruction with
  | load register value =>
      obtain ⟨literal, read, rfl⟩ :=
        Argument.asLiteral_written (integral value List.mem_cons_self) line
      refine ⟨.load register literal, ?_, rfl⟩
      simp only [Instruction.opcode, Instruction.arguments, Token.instruction?, read]
      rfl
  | move source destination => exact ⟨.move source destination, rfl, rfl⟩
  | increment register => exact ⟨.increment register, rfl, rfl⟩
  | decrement register => exact ⟨.decrement register, rfl, rfl⟩
  | add register operand =>
      obtain ⟨spelled, read, rfl⟩ := Operand.asOperand_argument integral line
      refine ⟨.add register spelled, ?_, rfl⟩
      simp only [Instruction.opcode, Instruction.arguments, Token.instruction?, read]
      rfl
  | subtract register operand =>
      obtain ⟨spelled, read, rfl⟩ := Operand.asOperand_argument integral line
      refine ⟨.subtract register spelled, ?_, rfl⟩
      simp only [Instruction.opcode, Instruction.arguments, Token.instruction?, read]
      rfl
  | compare comparison left right =>
      obtain ⟨spelled, read, same⟩ := assembleComparison_arguments integral line comparison
      refine ⟨spelled, ?_, same⟩
      rw [← read]
      cases comparison <;> rfl
  | out emission =>
      refine ⟨.out emission, ?_, rfl⟩
      simp only [Instruction.opcode, Instruction.arguments, Token.instruction?,
        Emission.asEmission_argument]

theorem Argument.printable_written {value : Float} (integral : Integral value) :
    Argument.Printable ⟨.literal, written value⟩ := by
  obtain ⟨integer, denotes, within⟩ := integral
  obtain ⟨negative, significand, exponent, found, digits, _⟩ := denotes.decode_eq within
  have spelled : (written value).toList = writeSign negative ++ Nat.toDigits 10 integer.natAbs := by
    rw [written, String.toList_ofList, found, Decoded.write, digits]
  have solid := solid_of_mem_decimal negative integer.natAbs
  rw [← spelled] at solid
  refine ⟨⟨?_, ?_⟩, ?_⟩
  · intro char member
    obtain ⟨_, comma, semicolon, newline, _⟩ := solid char member
    exact ⟨comma, semicolon, newline⟩
  · intro _ char last
    exact (solid char (List.mem_of_mem_getLast? last)).1
  · intro member
    exact (solid '\x08' member).2.2.2.2 rfl

/-- A literal that is handed out as its text can also be displayed as a string. -/
theorem Argument.Printable.asEmission {argument : Argument} (printable : argument.Printable) :
    argument.asEmission.argument.Printable := by
  obtain ⟨kind, value⟩ := argument
  cases kind with
  | literal =>
      exact ⟨⟨printable.separated, fun other => absurd rfl other⟩, printable.noBackspace⟩
  | register | string | flag => exact printable

theorem Argument.eq_of_asRegister {line : Nat} {argument : Argument} {name : String}
    (fits : argument.asRegister line = .ok name) : argument = ⟨.register, name⟩ := by
  obtain ⟨kind, value⟩ := argument
  cases kind <;> cases fits
  rfl

theorem Argument.Printable.asOperand {line : Nat} {argument : Argument}
    {operand : Operand Literal} (printable : argument.Printable)
    (fits : argument.asOperand line = .ok operand)
    (integral : ∀ value ∈ (operand.map Literal.toFloat).literals, Integral value) :
    (operand.map Literal.toFloat).argument.Printable := by
  cases operand with
  | literal literal => exact Argument.printable_written (integral _ List.mem_cons_self)
  | register name =>
      obtain ⟨kind, value⟩ := argument
      cases kind with
      | register =>
          cases fits
          exact printable
      | literal =>
          rw [Argument.asOperand] at fits
          cases read : Argument.asLiteral line ⟨.literal, value⟩ <;> rw [read] at fits <;> cases fits
      | string | flag => cases fits

/-- A sequence succeeds only if both of its parts do. -/
theorem exists_of_bind_eq_ok {Error Value Other : Type} {first : Except Error Value}
    {next : Value → Except Error Other} {result : Other} (succeeded : first >>= next = .ok result) :
    ∃ value, first = .ok value ∧ next value = .ok result := by
  cases first with
  | error error => cases succeeded
  | ok value => exact ⟨value, rfl, succeeded⟩

theorem printable_of_assembleComparison {line : Nat} {comparison : Comparison}
    {first second : Argument} {instruction : Instruction Literal} (printableFirst : first.Printable)
    (printableSecond : second.Printable)
    (assembled : assembleComparison line comparison first second = .ok instruction)
    (integral : ∀ value ∈ (instruction.map Literal.toFloat).literals, Integral value) :
    ∀ argument ∈ (instruction.map Literal.toFloat).arguments, argument.Printable := by
  obtain ⟨left, readLeft, rest⟩ := exists_of_bind_eq_ok assembled
  obtain ⟨right, readRight, made⟩ := exists_of_bind_eq_ok rest
  cases made
  have printableLeft := printableFirst.asOperand readLeft fun value member =>
    integral value (List.mem_append_left _ member)
  have printableRight := printableSecond.asOperand readRight fun value member =>
    integral value (List.mem_append_right _ member)
  exact List.forall_mem_cons.mpr ⟨printableLeft, List.forall_mem_singleton.mpr printableRight⟩

theorem Token.arity_le_of_instruction? {token : Token}
    {outcome : Except AssemblyError (Instruction Literal)}
    (assembled : token.instruction? = some outcome) :
    token.opcode.arity ≤ token.arguments.length := by
  apply Nat.not_lt.mp
  intro few
  rw [(Token.instruction?_eq_none_iff token).mpr few] at assembled
  cases assembled

/-- What is displayed of an instruction is as printable as what it was assembled from. -/
theorem Token.printable_of_instruction? {token : Token} {instruction : Instruction Literal}
    (printable : ∀ argument ∈ token.arguments, argument.Printable)
    (assembled : token.instruction? = some (.ok instruction))
    (integral : ∀ value ∈ (instruction.map Literal.toFloat).literals, Integral value) :
    ∀ argument ∈ (instruction.map Literal.toFloat).arguments, argument.Printable := by
  obtain ⟨line, opcode, arguments⟩ := token
  have enough := Token.arity_le_of_instruction? assembled
  have nonempty : arguments ≠ [] := by
    rintro rfl
    cases opcode <;> cases enough
  obtain ⟨first, others, rfl⟩ := List.exists_cons_of_ne_nil nonempty
  have printableFirst := printable first List.mem_cons_self
  have twoArguments (two : 2 ≤ opcode.arity) :
      ∃ second rest, others = second :: rest ∧ second.Printable := by
    obtain ⟨second, rest, rfl⟩ :=
      List.exists_cons_of_length_pos (Nat.le_of_succ_le_succ (Nat.le_trans two enough))
    exact ⟨second, rest, rfl, printable second (by simp)⟩
  cases opcode with
  | load =>
      obtain ⟨second, rest, rfl, _⟩ := twoArguments (by decide)
      obtain ⟨register, read, later⟩ := exists_of_bind_eq_ok (Option.some.inj assembled)
      obtain ⟨literal, _, made⟩ := exists_of_bind_eq_ok later
      cases made
      rw [Argument.eq_of_asRegister read] at printableFirst
      have printableValue := Argument.printable_written (integral _ List.mem_cons_self)
      exact List.forall_mem_cons.mpr
        ⟨printableFirst, List.forall_mem_singleton.mpr printableValue⟩
  | move =>
      obtain ⟨second, rest, rfl, printableSecond⟩ := twoArguments (by decide)
      obtain ⟨source, readSource, later⟩ := exists_of_bind_eq_ok (Option.some.inj assembled)
      obtain ⟨destination, readDestination, made⟩ := exists_of_bind_eq_ok later
      cases made
      rw [Argument.eq_of_asRegister readSource] at printableFirst
      rw [Argument.eq_of_asRegister readDestination] at printableSecond
      exact List.forall_mem_cons.mpr
        ⟨printableFirst, List.forall_mem_singleton.mpr printableSecond⟩
  | increment | decrement =>
      obtain ⟨register, read, made⟩ := exists_of_bind_eq_ok (Option.some.inj assembled)
      cases made
      rw [Argument.eq_of_asRegister read] at printableFirst
      exact List.forall_mem_singleton.mpr printableFirst
  | add | subtract =>
      obtain ⟨second, rest, rfl, printableSecond⟩ := twoArguments (by decide)
      obtain ⟨register, read, later⟩ := exists_of_bind_eq_ok (Option.some.inj assembled)
      obtain ⟨operand, readOperand, made⟩ := exists_of_bind_eq_ok later
      cases made
      rw [Argument.eq_of_asRegister read] at printableFirst
      have printableOperand := printableSecond.asOperand readOperand integral
      exact List.forall_mem_cons.mpr
        ⟨printableFirst, List.forall_mem_singleton.mpr printableOperand⟩
  | greaterThan | lessThan | equals =>
      obtain ⟨second, rest, rfl, printableSecond⟩ := twoArguments (by decide)
      exact printable_of_assembleComparison printableFirst printableSecond
        (Option.some.inj assembled) integral
  | out =>
      cases assembled
      exact List.forall_mem_singleton.mpr printableFirst.asEmission

end RegisterMachine
