/-
This file accounts for every token that is assembled.
The account lists what the places of an opcode admit, and one contribution alone fits it.
-/

import Mathlib.Data.List.Forall2
import RegisterMachine.Assembler
import RegisterMachine.Proofs.Program.Announcement

namespace RegisterMachine

/-- A place says which arguments can stand in it. -/
inductive Place where
  | register
  | literal
  | value
  | anything

/-- The places of an opcode stand in the order of the arguments that it reads. -/
def Opcode.places : Opcode → List Place
  | .load => [.register, .literal]
  | .move => [.register, .register]
  | .increment | .decrement => [.register]
  | .add | .subtract => [.register, .value]
  | .greaterThan | .lessThan | .equals => [.value, .value]
  | .out => [.anything]

/-- A literal is admitted only if its text can be read. -/
inductive Place.Admits : Place → Argument → Prop where
  | register (name : String) : Place.register.Admits ⟨.register, name⟩
  | literal {text : String} {literal : Literal} (read : Literal.ofText? text = some literal) :
      Place.literal.Admits ⟨.literal, text⟩
  | registerValue (name : String) : Place.value.Admits ⟨.register, name⟩
  | literalValue {text : String} {literal : Literal} (read : Literal.ofText? text = some literal) :
      Place.value.Admits ⟨.literal, text⟩
  | anything (argument : Argument) : Place.anything.Admits argument

/-- The cause of a refusal is the wrong kind or a text without a digit in its place. -/
inductive Place.Refuses : Place → Argument → AssemblyError.Cause → Prop where
  | noRegister {argument : Argument} (other : argument.kind ≠ .register) :
      Place.register.Refuses argument .expectedRegister
  | noLiteral {argument : Argument} (other : argument.kind ≠ .literal) :
      Place.literal.Refuses argument .expectedLiteral
  | noValue {argument : Argument} (noRegister : argument.kind ≠ .register)
      (noLiteral : argument.kind ≠ .literal) : Place.value.Refuses argument .expectedValue
  | unreadLiteral {text : String} (unread : Literal.ofText? text = none) :
      Place.literal.Refuses ⟨.literal, text⟩ .invalidLiteral
  | unreadValue {text : String} (unread : Literal.ofText? text = none) :
      Place.value.Refuses ⟨.literal, text⟩ .invalidLiteral

/-- The first argument that its place does not admit is the one that is refused. -/
inductive Misfits : List Place → List Argument → AssemblyError.Cause → Argument → Prop where
  | here {place : Place} {argument : Argument} {cause : AssemblyError.Cause}
      (refused : place.Refuses argument cause) (places : List Place) (arguments : List Argument) :
      Misfits (place :: places) (argument :: arguments) cause argument
  | later {place : Place} {places : List Place} {first argument : Argument}
      {arguments : List Argument} {cause : AssemblyError.Cause} (admitted : place.Admits first)
      (rest : Misfits places arguments cause argument) :
      Misfits (place :: places) (first :: arguments) cause argument

/-- An operand holds the name of a register or the number that the text of a literal spells. -/
inductive Operand.Holds : Operand Float → Argument → Prop where
  | register (name : String) : Operand.Holds (.register name) ⟨.register, name⟩
  | literal {text : String} {literal : Literal} (read : Literal.ofText? text = some literal) :
      Operand.Holds (.literal literal.toFloat) ⟨.literal, text⟩

/-- An emission holds a literal as its text, which need not be readable. -/
inductive Emission.Holds : Emission → Argument → Prop where
  | register (name : String) : Emission.Holds (.register name) ⟨.register, name⟩
  | flag (name : String) : Emission.Holds (.flag name) ⟨.flag, name⟩
  | string (content : String) : Emission.Holds (.text content) ⟨.string, content⟩
  | literal (content : String) : Emission.Holds (.text content) ⟨.literal, content⟩

/-- An instruction holds as many arguments as its opcode reads. -/
inductive Instruction.Holds : Instruction Float → List Argument → Prop where
  | load (register : String) {text : String} {literal : Literal}
      (read : Literal.ofText? text = some literal) :
      Instruction.Holds (.load register literal.toFloat)
        [⟨.register, register⟩, ⟨.literal, text⟩]
  | move (source destination : String) :
      Instruction.Holds (.move source destination)
        [⟨.register, source⟩, ⟨.register, destination⟩]
  | increment (register : String) :
      Instruction.Holds (.increment register) [⟨.register, register⟩]
  | decrement (register : String) :
      Instruction.Holds (.decrement register) [⟨.register, register⟩]
  | add (register : String) {operand : Operand Float} {argument : Argument}
      (held : operand.Holds argument) :
      Instruction.Holds (.add register operand) [⟨.register, register⟩, argument]
  | subtract (register : String) {operand : Operand Float} {argument : Argument}
      (held : operand.Holds argument) :
      Instruction.Holds (.subtract register operand) [⟨.register, register⟩, argument]
  | compare (comparison : Comparison) {left right : Operand Float} {first second : Argument}
      (heldLeft : left.Holds first) (heldRight : right.Holds second) :
      Instruction.Holds (.compare comparison left right) [first, second]
  | out {emission : Emission} {argument : Argument} (held : emission.Holds argument) :
      Instruction.Holds (.out emission) [argument]

/-- A contribution is what a token adds to the program, to the errors and to the records. -/
structure Token.Contribution where
  steps : Program Float
  errors : List AssemblyError
  records : List Record

/-- A token lacks arguments and adds nothing, or it has one that is refused and adds the error about
it with its record, or else it adds the step on its line that holds its first arguments. -/
inductive Token.Accounts : Token → Token.Contribution → Prop where
  | skipped {token : Token} (few : token.arguments.length < token.opcode.arity) :
      Token.Accounts token ⟨[], [], []⟩
  | rejected (line : Nat) {opcode : Opcode} {arguments : List Argument}
      {cause : AssemblyError.Cause} {argument : Argument}
      (enough : opcode.arity ≤ arguments.length)
      (misfits : Misfits opcode.places arguments cause argument) :
      Token.Accounts ⟨line, opcode, arguments⟩
        ⟨[], [⟨line, cause, argument⟩],
          [⟨.error, AssemblyError.message ⟨line, cause, argument⟩⟩]⟩
  | assembled (line : Nat) {instruction : Instruction Float} {arguments : List Argument}
      (held : instruction.Holds arguments) (further : List Argument) :
      Token.Accounts ⟨line, instruction.opcode, arguments ++ further⟩
        ⟨[⟨line, instruction⟩], [], []⟩

/-- The literals of an assembled step take their binary64 values. -/
def Assembly.contribution : Assembly → Token.Contribution
  | .skipped _ => ⟨[], [], []⟩
  | .rejected error => ⟨[], [error], [⟨.error, error.message⟩]⟩
  | .assembled step => ⟨[step.map Literal.toFloat], [], []⟩

/-- A truncated token has no arguments beyond those that its opcode reads. -/
def Token.truncated (token : Token) : Token :=
  { token with arguments := token.arguments.take token.opcode.arity }

/-- A check decides for a place if it passes what the place admits and reports what it refuses. -/
structure Decides {Value : Type} (place : Place)
    (check : Argument → Nat → Except AssemblyError Value) : Prop where
  admits : ∀ {argument}, place.Admits argument → ∀ line, ∃ value, check argument line = .ok value
  refuses : ∀ {argument cause}, place.Refuses argument cause → ∀ line,
    check argument line = .error ⟨line, cause, argument⟩

theorem Opcode.length_places (opcode : Opcode) : opcode.places.length = opcode.arity := by
  cases opcode <;> rfl

theorem Place.admits_or_refuses (place : Place) (argument : Argument) :
    place.Admits argument ∨ ∃ cause, place.Refuses argument cause := by
  obtain ⟨kind, value⟩ := argument
  cases place with
  | anything => exact .inl (.anything _)
  | register =>
      by_cases register : kind = .register
      · subst register
        exact .inl (.register value)
      · exact .inr ⟨_, .noRegister register⟩
  | literal =>
      by_cases literal : kind = .literal
      · subst literal
        cases read : Literal.ofText? value with
        | none => exact .inr ⟨_, .unreadLiteral read⟩
        | some literal => exact .inl (.literal read)
      · exact .inr ⟨_, .noLiteral literal⟩
  | value =>
      by_cases register : kind = .register
      · subst register
        exact .inl (.registerValue value)
      · by_cases literal : kind = .literal
        · subst literal
          cases read : Literal.ofText? value with
          | none => exact .inr ⟨_, .unreadValue read⟩
          | some literal => exact .inl (.literalValue read)
        · exact .inr ⟨_, .noValue register literal⟩

/-- Enough arguments fill their places, or the first that does not is refused. -/
theorem admitted_or_misfits {places : List Place} {arguments : List Argument}
    (enough : places.length ≤ arguments.length) :
    (∃ used further, arguments = used ++ further ∧ List.Forall₂ Place.Admits places used) ∨
      ∃ cause argument, Misfits places arguments cause argument := by
  induction places generalizing arguments with
  | nil => exact .inl ⟨[], arguments, rfl, .nil⟩
  | cons place places ih =>
      obtain ⟨first, rest, rfl⟩ := List.exists_cons_of_length_pos
        (Nat.lt_of_lt_of_le (Nat.succ_pos places.length) enough)
      rcases place.admits_or_refuses first with admitted | ⟨cause, refused⟩
      · rcases ih (Nat.le_of_succ_le_succ enough) with
          ⟨used, further, rfl, admittedRest⟩ | ⟨cause, argument, misfits⟩
        · exact .inl ⟨first :: used, further, rfl, .cons admitted admittedRest⟩
        · exact .inr ⟨cause, argument, .later admitted misfits⟩
      · exact .inr ⟨cause, first, .here refused places rest⟩

theorem Argument.decides_asRegister :
    Decides .register fun argument line => argument.asRegister line where
  admits := by
    rintro _ ⟨name⟩ line
    exact ⟨name, rfl⟩
  refuses := by
    rintro argument _ ⟨other⟩ line
    rw [Argument.asRegister]
    split
    · next register => exact absurd register other
    · rfl

theorem Argument.asLiteral_of_some {text : String} {literal : Literal}
    (read : Literal.ofText? text = some literal) (line : Nat) :
    Argument.asLiteral line ⟨.literal, text⟩ = .ok literal := by
  simp only [Argument.asLiteral, read]

theorem Argument.asLiteral_of_none {text : String} (unread : Literal.ofText? text = none)
    (line : Nat) : Argument.asLiteral line ⟨.literal, text⟩ =
      .error ⟨line, .invalidLiteral, ⟨.literal, text⟩⟩ := by
  simp only [Argument.asLiteral, unread]

theorem Argument.decides_asLiteral :
    Decides .literal fun argument line => argument.asLiteral line where
  admits := by
    rintro _ (_ | read) line
    exact ⟨_, Argument.asLiteral_of_some read line⟩
  refuses := by
    intro argument cause refused line
    cases refused with
    | noLiteral other =>
        rw [Argument.asLiteral]
        split
        · next literal => exact absurd literal other
        · rfl
    | unreadLiteral unread => exact Argument.asLiteral_of_none unread line

/-- The operand is made of the one that the argument spells. -/
theorem Operand.Holds.exists_asOperand {operand : Operand Float} {argument : Argument}
    (held : operand.Holds argument) (line : Nat) :
    ∃ spelled : Operand Literal, spelled.map Literal.toFloat = operand ∧
      argument.asOperand line = .ok spelled := by
  cases held with
  | register name => exact ⟨.register name, rfl, rfl⟩
  | @literal text literal read =>
      refine ⟨.literal literal, rfl, ?_⟩
      simp only [Argument.asOperand, Argument.asLiteral_of_some read, Except.map]

theorem Place.Admits.exists_name {argument : Argument}
    (admitted : Place.register.Admits argument) : ∃ name, argument = ⟨.register, name⟩ := by
  cases admitted with
  | register name => exact ⟨name, rfl⟩

theorem Place.Admits.exists_literal {argument : Argument}
    (admitted : Place.literal.Admits argument) :
    ∃ text literal, Literal.ofText? text = some literal ∧ argument = ⟨.literal, text⟩ := by
  cases admitted with
  | literal read => exact ⟨_, _, read, rfl⟩

theorem Place.Admits.exists_operand {argument : Argument} (admitted : Place.value.Admits argument) :
    ∃ operand : Operand Float, operand.Holds argument := by
  cases admitted with
  | registerValue name => exact ⟨_, .register name⟩
  | literalValue read => exact ⟨_, .literal read⟩

theorem Argument.decides_asOperand :
    Decides .value fun argument line => argument.asOperand line where
  admits := by
    intro argument admitted line
    obtain ⟨operand, held⟩ := admitted.exists_operand
    obtain ⟨spelled, -, passed⟩ := held.exists_asOperand line
    exact ⟨spelled, passed⟩
  refuses := by
    intro argument cause refused line
    cases refused with
    | noValue noRegister noLiteral =>
        rw [Argument.asOperand]
        split
        · next register => exact absurd register noRegister
        · next literal => exact absurd literal noLiteral
        · rfl
        · rfl
    | unreadValue unread =>
        simp only [Argument.asOperand, Argument.asLiteral_of_none unread, Except.map]

section Sequences

variable {First Second Result : Type} {place other : Place}
  {check : Argument → Nat → Except AssemblyError First}
  {checkOther : Argument → Nat → Except AssemblyError Second}
  {first second argument : Argument} {further : List Argument} {cause : AssemblyError.Cause}

theorem Decides.error (decides : Decides place check)
    (misfits : Misfits [place] (first :: further) cause argument) (line : Nat)
    (make : First → Result) :
    (do return make (← check first line)) = Except.error ⟨line, cause, argument⟩ := by
  cases misfits with
  | here refused =>
      rw [decides.refuses refused]
      rfl
  | later admitted rest => cases rest

/-- Two checks in a row report the first argument that is refused. -/
theorem Decides.error_pair (decides : Decides place check) (decidesOther : Decides other checkOther)
    (misfits : Misfits [place, other] (first :: second :: further) cause argument) (line : Nat)
    (make : First → Second → Result) :
    (do
      let left ← check first line
      let right ← checkOther second line
      return make left right) = Except.error ⟨line, cause, argument⟩ := by
  cases misfits with
  | here refused =>
      rw [decides.refuses refused]
      rfl
  | later admitted rest =>
      obtain ⟨value, passed⟩ := decides.admits admitted line
      cases rest with
      | here refused =>
          rw [passed, decidesOther.refuses refused]
          rfl
      | later _ none => cases none

end Sequences

/-- The refused argument is the one that the assembly reports. -/
theorem Token.instruction?_of_misfits (line : Nat) {opcode : Opcode} {arguments : List Argument}
    {cause : AssemblyError.Cause} {argument : Argument}
    (enough : opcode.arity ≤ arguments.length)
    (misfits : Misfits opcode.places arguments cause argument) :
    Token.instruction? ⟨line, opcode, arguments⟩ = some (.error ⟨line, cause, argument⟩) := by
  have one (positive : 1 ≤ arguments.length) : ∃ first further, arguments = first :: further :=
    List.exists_cons_of_length_pos positive
  have two (pair : 2 ≤ arguments.length) :
      ∃ first second further, arguments = first :: second :: further := by
    obtain ⟨first, rest, rfl⟩ := one (Nat.le_of_succ_le pair)
    obtain ⟨second, further, rfl⟩ := List.exists_cons_of_length_pos (Nat.le_of_succ_le_succ pair)
    exact ⟨first, second, further, rfl⟩
  have register := Argument.decides_asRegister
  have literal := Argument.decides_asLiteral
  have operand := Argument.decides_asOperand
  cases opcode with
  | load =>
      obtain ⟨first, second, further, rfl⟩ := two enough
      exact congrArg some (register.error_pair literal misfits line Instruction.load)
  | move =>
      obtain ⟨first, second, further, rfl⟩ := two enough
      exact congrArg some (register.error_pair register misfits line Instruction.move)
  | increment =>
      obtain ⟨first, further, rfl⟩ := one enough
      exact congrArg some (register.error misfits line Instruction.increment)
  | decrement =>
      obtain ⟨first, further, rfl⟩ := one enough
      exact congrArg some (register.error misfits line Instruction.decrement)
  | add =>
      obtain ⟨first, second, further, rfl⟩ := two enough
      exact congrArg some (register.error_pair operand misfits line Instruction.add)
  | subtract =>
      obtain ⟨first, second, further, rfl⟩ := two enough
      exact congrArg some (register.error_pair operand misfits line Instruction.subtract)
  | greaterThan =>
      obtain ⟨first, second, further, rfl⟩ := two enough
      exact congrArg some (operand.error_pair operand misfits line (Instruction.compare .greaterThan))
  | lessThan =>
      obtain ⟨first, second, further, rfl⟩ := two enough
      exact congrArg some (operand.error_pair operand misfits line (Instruction.compare .lessThan))
  | equals =>
      obtain ⟨first, second, further, rfl⟩ := two enough
      exact congrArg some (operand.error_pair operand misfits line (Instruction.compare .equals))
  | out =>
      -- The only place of an output admits everything.
      cases misfits with
      | here refused => cases refused
      | later admitted rest => cases rest

theorem Emission.Holds.asEmission {emission : Emission} {argument : Argument}
    (held : emission.Holds argument) : argument.asEmission = emission := by
  cases held <;> rfl

theorem Emission.exists_holds (argument : Argument) :
    ∃ emission : Emission, emission.Holds argument := by
  obtain ⟨kind, value⟩ := argument
  cases kind with
  | register => exact ⟨_, .register value⟩
  | literal => exact ⟨_, .literal value⟩
  | string => exact ⟨_, .string value⟩
  | flag => exact ⟨_, .flag value⟩

/-- The arguments that an instruction holds spell it, whatever follows them. -/
theorem Instruction.Holds.exists_instruction? {instruction : Instruction Float}
    {arguments : List Argument} (held : instruction.Holds arguments) (line : Nat)
    (further : List Argument) :
    ∃ spelled : Instruction Literal, spelled.map Literal.toFloat = instruction ∧
      Token.instruction? ⟨line, instruction.opcode, arguments ++ further⟩ =
        some (.ok spelled) := by
  cases held with
  | @load register text literal read =>
      refine ⟨.load register literal, rfl, ?_⟩
      simp only [Instruction.opcode, List.cons_append, Token.instruction?,
        Argument.asLiteral_of_some read]
      rfl
  | move source destination => exact ⟨.move source destination, rfl, rfl⟩
  | increment register => exact ⟨.increment register, rfl, rfl⟩
  | decrement register => exact ⟨.decrement register, rfl, rfl⟩
  | add register held =>
      obtain ⟨spelled, rfl, passed⟩ := held.exists_asOperand line
      refine ⟨.add register spelled, rfl, ?_⟩
      simp only [Instruction.opcode, List.cons_append, Token.instruction?, passed]
      rfl
  | subtract register held =>
      obtain ⟨spelled, rfl, passed⟩ := held.exists_asOperand line
      refine ⟨.subtract register spelled, rfl, ?_⟩
      simp only [Instruction.opcode, List.cons_append, Token.instruction?, passed]
      rfl
  | @compare comparison _ _ first second heldLeft heldRight =>
      obtain ⟨left, rfl, passedLeft⟩ := heldLeft.exists_asOperand line
      obtain ⟨right, rfl, passedRight⟩ := heldRight.exists_asOperand line
      have assembled : assembleComparison line comparison first second =
          .ok (.compare comparison left right) := by
        rw [assembleComparison, passedLeft, passedRight]
        rfl
      refine ⟨.compare comparison left right, rfl, ?_⟩
      cases comparison <;> exact congrArg some assembled
  | @out emission argument held =>
      refine ⟨.out emission, rfl, ?_⟩
      simp only [Instruction.opcode, List.cons_append, Token.instruction?, held.asEmission]

/-- Arguments that fill the places of an opcode are held by an instruction. -/
theorem Opcode.exists_holds {opcode : Opcode} {arguments : List Argument}
    (admitted : List.Forall₂ Place.Admits opcode.places arguments) :
    ∃ instruction : Instruction Float, instruction.opcode = opcode ∧
      instruction.Holds arguments := by
  have compared (comparison : Comparison)
      (admitted : List.Forall₂ Place.Admits [.value, .value] arguments) :
      ∃ instruction : Instruction Float, instruction.opcode = comparison.opcode ∧
        instruction.Holds arguments := by
    obtain _ | ⟨first, _ | ⟨second, ⟨⟩⟩⟩ := admitted
    obtain ⟨left, heldLeft⟩ := first.exists_operand
    obtain ⟨right, heldRight⟩ := second.exists_operand
    exact ⟨_, rfl, .compare comparison heldLeft heldRight⟩
  cases opcode with
  | load =>
      obtain _ | ⟨first, _ | ⟨second, ⟨⟩⟩⟩ := admitted
      obtain ⟨register, rfl⟩ := first.exists_name
      obtain ⟨text, literal, read, rfl⟩ := second.exists_literal
      exact ⟨_, rfl, .load register read⟩
  | move =>
      obtain _ | ⟨first, _ | ⟨second, ⟨⟩⟩⟩ := admitted
      obtain ⟨source, rfl⟩ := first.exists_name
      obtain ⟨destination, rfl⟩ := second.exists_name
      exact ⟨_, rfl, .move source destination⟩
  | increment =>
      obtain _ | ⟨first, ⟨⟩⟩ := admitted
      obtain ⟨register, rfl⟩ := first.exists_name
      exact ⟨_, rfl, .increment register⟩
  | decrement =>
      obtain _ | ⟨first, ⟨⟩⟩ := admitted
      obtain ⟨register, rfl⟩ := first.exists_name
      exact ⟨_, rfl, .decrement register⟩
  | add =>
      obtain _ | ⟨first, _ | ⟨second, ⟨⟩⟩⟩ := admitted
      obtain ⟨register, rfl⟩ := first.exists_name
      obtain ⟨operand, held⟩ := second.exists_operand
      exact ⟨_, rfl, .add register held⟩
  | subtract =>
      obtain _ | ⟨first, _ | ⟨second, ⟨⟩⟩⟩ := admitted
      obtain ⟨register, rfl⟩ := first.exists_name
      obtain ⟨operand, held⟩ := second.exists_operand
      exact ⟨_, rfl, .subtract register held⟩
  | greaterThan => exact compared .greaterThan admitted
  | lessThan => exact compared .lessThan admitted
  | equals => exact compared .equals admitted
  | out =>
      obtain _ | ⟨_, ⟨⟩⟩ := admitted
      obtain ⟨emission, held⟩ := Emission.exists_holds _
      exact ⟨_, rfl, .out held⟩

theorem Token.exists_accounts (token : Token) : ∃ contribution, token.Accounts contribution := by
  obtain ⟨line, opcode, arguments⟩ := token
  rcases Nat.lt_or_ge arguments.length opcode.arity with few | enough
  · exact ⟨_, .skipped few⟩
  · have filled := enough
    rw [← opcode.length_places] at filled
    rcases admitted_or_misfits filled with
      ⟨used, further, rfl, admitted⟩ | ⟨cause, argument, misfits⟩
    · obtain ⟨instruction, rfl, held⟩ := Opcode.exists_holds admitted
      exact ⟨_, .assembled line held further⟩
    · exact ⟨_, .rejected line enough misfits⟩

/-- The contribution of a token is the only one that fits its account. -/
theorem Token.accounts_iff {token : Token} {contribution : Token.Contribution} :
    token.Accounts contribution ↔ (Assembly.ofToken token).contribution = contribution := by
  have outcome {contribution : Token.Contribution} (accounts : token.Accounts contribution) :
      (Assembly.ofToken token).contribution = contribution := by
    cases accounts with
    | skipped few =>
        rw [Assembly.ofToken, (Token.instruction?_eq_none_iff token).mpr few]
        rfl
    | rejected line enough misfits =>
        rw [Assembly.ofToken, Token.instruction?_of_misfits line enough misfits]
        rfl
    | assembled line held further =>
        obtain ⟨spelled, rfl, found⟩ := held.exists_instruction? line further
        rw [Assembly.ofToken, found]
        rfl
  constructor
  · exact outcome
  · rintro rfl
    obtain ⟨contribution, accounts⟩ := token.exists_accounts
    rwa [outcome accounts]

theorem Assembly.steps_contribution (assembly : Assembly) :
    assembly.contribution.steps = (assembly.step?.map (Step.map Literal.toFloat)).toList := by
  cases assembly <;> rfl

theorem Assembly.errors_contribution (assembly : Assembly) :
    assembly.contribution.errors = assembly.error?.toList := by
  cases assembly <;> rfl

theorem Assembly.records_contribution (assembly : Assembly) :
    assembly.contribution.records = assembly.events.filterMap Event.record? := by
  cases assembly <;> rfl

theorem Token.instruction?_truncated (token : Token) :
    token.truncated.instruction? = token.instruction? := by
  obtain ⟨line, opcode, arguments⟩ := token
  rcases arguments with _ | ⟨first, _ | ⟨second, further⟩⟩ <;> cases opcode <;> rfl

/-- The arguments beyond the arity do not change the outcome. -/
theorem Assembly.ofToken_truncated (token : Token) :
    Assembly.ofToken token.truncated = Assembly.ofToken token := by
  -- Only a token that is skipped is kept as it is, and it has no arguments to drop.
  rcases Nat.lt_or_ge token.arguments.length token.opcode.arity with few | enough
  · rw [Token.truncated, List.take_of_length_le (Nat.le_of_lt few)]
  · rw [Assembly.ofToken, Assembly.ofToken, Token.instruction?_truncated]
    cases found : token.instruction? with
    | none => exact absurd ((Token.instruction?_eq_none_iff token).mp found) (Nat.not_lt.mpr enough)
    | some outcome => cases outcome <;> rfl

theorem Assembler.assemble_truncated {Kept : Type} [Sink Kept] (assembler : Assembler Kept)
    (tokens : List Token) :
    assembler.assemble (tokens.map Token.truncated) = assembler.assemble tokens := by
  simp only [Assembler.assemble, Program.ofTokens, AssemblyError.ofTokens, Assembly.eventsOf,
    List.filterMap_map, List.flatMap_map, Function.comp_def, Assembly.ofToken_truncated]

/-- Whatever an assembler has kept so far, the tokens have one list of contributions that fits their
accounts, in their order. The program has the steps of them, and the errors and the output grow by
theirs. Arguments that no opcode reads change nothing. -/
theorem Assembler.assemble_accounted (assembler : Assembler Buffer) (tokens : List Token) :
    (∃ contributions,
      (∀ other, List.Forall₂ Token.Accounts tokens other ↔ other = contributions) ∧
      (assembler.assemble tokens).1 = contributions.flatMap Token.Contribution.steps ∧
      (assembler.assemble tokens).2.errors =
        assembler.errors ++ contributions.flatMap Token.Contribution.errors ∧
      (assembler.assemble tokens).2.sink.records =
        assembler.sink.records ++ contributions.flatMap Token.Contribution.records) ∧
      assembler.assemble (tokens.map Token.truncated) = assembler.assemble tokens := by
  refine ⟨⟨tokens.map fun token => (Assembly.ofToken token).contribution, ?_, ?_, ?_, ?_⟩,
    assembler.assemble_truncated tokens⟩
  · intro other
    have accounts : Token.Accounts =
        fun token contribution => (Assembly.ofToken token).contribution = contribution := by
      funext token contribution
      exact propext Token.accounts_iff
    rw [accounts, eq_comm, ← List.forall₂_eq_eq_eq, List.forall₂_map_left_iff]
  · simp only [List.flatMap_map, Assembly.steps_contribution, ← List.filterMap_eq_flatMap_toList]
    exact List.map_filterMap
  · simp only [List.flatMap_map, Assembly.errors_contribution, ← List.filterMap_eq_flatMap_toList]
    rfl
  · simp only [List.flatMap_map, Assembly.records_contribution, ← List.filterMap_flatMap]
    exact Buffer.records_write assembler.sink (Assembly.eventsOf tokens)

/-- The first argument is refused before the second one, and no argument is refused if one lacks. -/
example : AssemblyError.ofTokens
    [⟨1, .load, [⟨.literal, "1"⟩, ⟨.literal, "x"⟩]⟩, ⟨2, .move, [⟨.literal, "1"⟩]⟩,
      ⟨3, .equals, [⟨.literal, "0x"⟩, ⟨.flag, "GT"⟩, ⟨.flag, "LT"⟩]⟩] =
    [⟨1, .expectedRegister, ⟨.literal, "1"⟩⟩, ⟨3, .invalidLiteral, ⟨.literal, "0x"⟩⟩] := by
  decide +kernel

end RegisterMachine
