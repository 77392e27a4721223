/-
This file reads a source text line by line.
The reading of a line holds its token, if it has one, and the errors found on the way to it.
-/

import RegisterMachine.Text.Blank
import RegisterMachine.Text.Lines
import RegisterMachine.Token

namespace RegisterMachine

/-- A cause quotes the text that could not be read. -/
inductive LexicalError.Cause where
  | noCode
  | unknownOpcode (word : String)
  | invalidArgument (piece : String)
  deriving DecidableEq

/-- A lexical error is a cause on a line of the source. -/
structure LexicalError where
  line : Nat
  cause : LexicalError.Cause
  deriving DecidableEq

/-- The wording of a cause puts the quoted text between backquotes. -/
def LexicalError.Cause.message : LexicalError.Cause → String
  | .noCode => "no code to parse"
  | .unknownOpcode word => "unknown opcode - `" ++ word ++ "`"
  | .invalidArgument piece => "invalid argument - `" ++ piece ++ "`"

/-- The message of an error starts with the number of its line. -/
def LexicalError.message (error : LexicalError) : String :=
  "[ln: " ++ toString error.line ++ "] " ++ error.cause.message

/-- The end of a string takes one closing quote with it. -/
def dropQuote (body : List Char) : List Char :=
  if body.getLast? = some '"' then body.dropLast else body

/-- A piece is an argument when it starts with a sigil. -/
def Argument.ofPiece? : List Char → Option Argument
  | [] => none
  | sigil :: body =>
      match Argument.Kind.ofSigil? sigil with
      | none => none
      | some .string => some ⟨.string, String.ofList (dropQuote body)⟩
      | some kind => some ⟨kind, String.ofList body⟩

/-- The pieces stand between the commas before a comment, and blank pieces do not count. -/
def argumentPieces (text : List Char) : List (List Char) :=
  (((text.takeWhile (· != ';')).splitOn ',').map Text.trim).filter (· ≠ [])

/-- A reading is everything that is found on one line. -/
structure Reading where
  errors : List LexicalError
  token? : Option Token
  deriving DecidableEq

/-- A line without code has neither a token nor an error. -/
def Reading.empty : Reading :=
  ⟨[], none⟩

/-- The code of a line lies behind its leading blanks and lacks its first backspace. -/
def lineCode (text : List Char) : List Char :=
  Text.trimStart (text.erase '\x08')

/-- The first three characters of the code name the opcode, whatever follows them. -/
def Reading.ofCode (line : Nat) (code : List Char) : Reading :=
  let word := String.ofList (code.take 3)
  match Opcode.ofMnemonic? word with
  | none => ⟨[⟨line, .unknownOpcode word⟩], none⟩
  | some opcode =>
      let pieces := argumentPieces (code.drop 3)
      let invalid := pieces.filter fun piece => (Argument.ofPiece? piece).isNone
      ⟨invalid.map fun piece => ⟨line, .invalidArgument (String.ofList piece)⟩,
        some ⟨line, opcode, pieces.filterMap Argument.ofPiece?⟩⟩

/-- A line holds code unless it is blank or its first other character starts a comment. -/
def Reading.ofLine (line : Nat) (text : List Char) : Reading :=
  match lineCode text with
  | [] => Reading.empty
  | ';' :: _ => Reading.empty
  | code => Reading.ofCode line code

/-- The lines are numbered from one, and a source without characters is an error on line one. -/
def Source.readings (source : String) : List Reading :=
  if source = "" then [⟨[⟨1, .noCode⟩], none⟩]
  else (Text.lines source.toList).mapIdx fun index text => Reading.ofLine (index + 1) text

/-- The tokens of a source stand in the order of their lines. -/
def Source.tokens (source : String) : List Token :=
  (Source.readings source).filterMap Reading.token?

/-- The errors of a source stand in the order in which they were found. -/
def Source.errors (source : String) : List LexicalError :=
  (Source.readings source).flatMap Reading.errors

end RegisterMachine
