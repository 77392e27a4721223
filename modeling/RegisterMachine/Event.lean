/-
This file defines the events of a machine.
An event is a record for the user or a trace of the machine's own work, and each has a log level.
-/

import RegisterMachine.Assembly
import RegisterMachine.Record
import RegisterMachine.Source

namespace RegisterMachine

/-- The levels are listed from the gravest to the most detailed. -/
inductive Level where
  | error
  | warn
  | info
  | debug
  | trace
  deriving DecidableEq

def Level.name : Level → String
  | .error => "error"
  | .warn => "warn"
  | .info => "info"
  | .debug => "debug"
  | .trace => "trace"

/-- A higher rank is a more detailed level. -/
def Level.rank : Level → Nat
  | .error => 1
  | .warn => 2
  | .info => 3
  | .debug => 4
  | .trace => 5

/-- A plain log and an information share a level. -/
def Severity.level : Severity → Level
  | .log | .info => .info
  | .warn => .warn
  | .error => .error

/-- A trace tells what the machine has just found or is about to do. -/
inductive Trace where
  | lexicalError (error : LexicalError)
  | tokenFound (token : Token)
  | tokenSkipped (token : Token)
  | assemblyError (error : AssemblyError)
  | built (instructions errors : Nat)
  | attempted (step : Step Float)
  | terminated (instructions : Nat)

/-- Only the end of a run is more than a detail. -/
def Trace.level : Trace → Level
  | .terminated _ => .info
  | _ => .debug

/-- The traces of errors repeat the messages of the errors. -/
def Trace.message : Trace → String
  | .lexicalError error => error.message
  | .tokenFound token =>
      "[" ++ toString token.line ++ "] Found " ++ token.opcode.mnemonic ++ " with " ++
        toString token.arguments.length ++ " argument(s)"
  | .tokenSkipped token =>
      "[" ++ toString token.line ++ "] `" ++ token.opcode.mnemonic ++ "` needs " ++
        toString token.opcode.arity ++ " argument(s) but has " ++
        toString token.arguments.length ++ ", skipping"
  | .assemblyError error => error.message
  | .built instructions errors =>
      "Compiled " ++ toString instructions ++ " instruction(s), " ++ toString errors ++
        " lexer error(s)"
  | .attempted step => "[" ++ toString step.line ++ "] " ++ step.instruction.display
  | .terminated instructions =>
      "Program terminated after " ++ toString instructions ++ " instruction(s)"

/-- An event keeps what happened and is put into words only when it is read. -/
inductive Event where
  | trace (detail : Trace)
  | record (handed : Record)

/-- Only a record is handed out to the user. -/
def Event.record? : Event → Option Record
  | .trace _ => none
  | .record handed => some handed

/-- The level of a record follows from its severity. -/
def Event.level : Event → Level
  | .trace detail => detail.level
  | .record handed => handed.severity.level

def Event.message : Event → String
  | .trace detail => detail.message
  | .record handed => handed.message

/-- A trace with the same message precedes the record of an error. -/
def LexicalError.events (error : LexicalError) : List Event :=
  [.trace (.lexicalError error), .record ⟨.error, error.message⟩]

/-- The errors of a line come before its token. -/
def Reading.events (reading : Reading) : List Event :=
  reading.errors.flatMap LexicalError.events ++
    reading.token?.toList.map fun token => .trace (.tokenFound token)

/-- An assembled step makes no event. -/
def Assembly.events : Assembly → List Event
  | .skipped token => [.trace (.tokenSkipped token)]
  | .rejected error => [.trace (.assemblyError error), .record ⟨.error, error.message⟩]
  | .assembled _ => []

/-- The events of a source stand in the order of its lines. -/
def Source.events (source : String) : List Event :=
  (Source.readings source).flatMap Reading.events

end RegisterMachine
