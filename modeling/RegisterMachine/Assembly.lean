/-
This file assembles tokens into steps.
A token is skipped if it lacks arguments, and rejected if an argument does not fit its place.
-/

import RegisterMachine.Instruction
import RegisterMachine.Literal

namespace RegisterMachine

/-- A cause says what the place of the argument needs. -/
inductive AssemblyError.Cause where
  | invalidLiteral
  | expectedRegister
  | expectedLiteral
  | expectedValue
  deriving DecidableEq

/-- The error holds the argument that does not fit. -/
structure AssemblyError where
  line : Nat
  cause : AssemblyError.Cause
  argument : Argument
  deriving DecidableEq

/-- The wording of a cause does not mention the argument. -/
def AssemblyError.Cause.message : AssemblyError.Cause → String
  | .invalidLiteral => "invalid literal"
  | .expectedRegister => "expected a register"
  | .expectedLiteral => "expected a literal"
  | .expectedValue => "expected a register or a literal"

/-- The message shows the argument as it stands in the source. -/
def AssemblyError.message (error : AssemblyError) : String :=
  "[ln: " ++ toString error.line ++ "] " ++ error.cause.message ++ " - `" ++
    error.argument.display ++ "`"

/-- Only a register fits a place that is written to or moved from. -/
def Argument.asRegister (line : Nat) (argument : Argument) : Except AssemblyError String :=
  match argument.kind with
  | .register => .ok argument.value
  | _ => .error ⟨line, .expectedRegister, argument⟩

/-- A literal fits only if its text can be read. -/
def Argument.asLiteral (line : Nat) (argument : Argument) : Except AssemblyError Literal :=
  match argument.kind with
  | .literal =>
      match Literal.ofText? argument.value with
      | some literal => .ok literal
      | none => .error ⟨line, .invalidLiteral, argument⟩
  | _ => .error ⟨line, .expectedLiteral, argument⟩

/-- An operand is a register or a literal. -/
def Argument.asOperand (line : Nat) (argument : Argument) :
    Except AssemblyError (Operand Literal) :=
  match argument.kind with
  | .register => .ok (.register argument.value)
  | .literal => (argument.asLiteral line).map .literal
  | .string | .flag => .error ⟨line, .expectedValue, argument⟩

/-- Every argument can be handed out, and a literal is handed out as its text. -/
def Argument.asEmission (argument : Argument) : Emission :=
  match argument.kind with
  | .register => .register argument.value
  | .flag => .flag argument.value
  | .string | .literal => .text argument.value

/-- A comparison takes its operands in source order and reports the first that does not fit. -/
def assembleComparison (line : Nat) (comparison : Comparison) (first second : Argument) :
    Except AssemblyError (Instruction Literal) := do
  let left ← first.asOperand line
  let right ← second.asOperand line
  return .compare comparison left right

/-- The arguments beyond the arity are ignored, and a shorter list gives no instruction. -/
def Token.instruction? (token : Token) : Option (Except AssemblyError (Instruction Literal)) :=
  match token.opcode, token.arguments with
  | .load, first :: second :: _ => some do
      let register ← first.asRegister token.line
      let value ← second.asLiteral token.line
      return .load register value
  | .move, first :: second :: _ => some do
      let source ← first.asRegister token.line
      let destination ← second.asRegister token.line
      return .move source destination
  | .increment, first :: _ => some do
      return .increment (← first.asRegister token.line)
  | .decrement, first :: _ => some do
      return .decrement (← first.asRegister token.line)
  | .add, first :: second :: _ => some do
      let register ← first.asRegister token.line
      let operand ← second.asOperand token.line
      return .add register operand
  | .subtract, first :: second :: _ => some do
      let register ← first.asRegister token.line
      let operand ← second.asOperand token.line
      return .subtract register operand
  | .greaterThan, first :: second :: _ =>
      some (assembleComparison token.line .greaterThan first second)
  | .lessThan, first :: second :: _ =>
      some (assembleComparison token.line .lessThan first second)
  | .equals, first :: second :: _ =>
      some (assembleComparison token.line .equals first second)
  | .out, first :: _ => some (.ok (.out first.asEmission))
  | _, _ => none

/-- Each token has exactly one of three outcomes. -/
inductive Assembly where
  | skipped (token : Token)
  | rejected (error : AssemblyError)
  | assembled (step : Step Literal)
  deriving DecidableEq

/-- The outcome depends on the opcode and on as many arguments as it reads. -/
def Assembly.ofToken (token : Token) : Assembly :=
  match token.instruction? with
  | none => .skipped token
  | some (.error error) => .rejected error
  | some (.ok instruction) => .assembled ⟨token.line, instruction⟩

/-- Only a rejected token has an error. -/
def Assembly.error? : Assembly → Option AssemblyError
  | .rejected error => some error
  | _ => none

/-- Only an assembled token has a step. -/
def Assembly.step? : Assembly → Option (Step Literal)
  | .assembled step => some step
  | _ => none

/-- A token gives no instruction exactly when it has fewer arguments than its opcode reads. -/
theorem Token.instruction?_eq_none_iff (token : Token) :
    token.instruction? = none ↔ token.arguments.length < token.opcode.arity := by
  obtain ⟨line, opcode, arguments⟩ := token
  rcases arguments with _ | ⟨first, _ | ⟨second, rest⟩⟩ <;> cases opcode <;>
    simp [Token.instruction?, Opcode.arity]

end RegisterMachine
