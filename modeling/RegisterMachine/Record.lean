/-
This file defines the records that a machine hands out.
A record is a message with a severity, and the severities are ordered from a plain log to an error.
-/

namespace RegisterMachine

/-- The severities are listed from the mildest to the gravest. -/
inductive Severity where
  | log
  | info
  | warn
  | error
  deriving DecidableEq

/-- A record is a plain log unless it says otherwise. -/
instance : Inhabited Severity := ⟨.log⟩

def Severity.name : Severity → String
  | .log => "log"
  | .info => "info"
  | .warn => "warn"
  | .error => "error"

/-- A higher rank is a graver severity. -/
def Severity.rank : Severity → Nat
  | .log => 0
  | .info => 1
  | .warn => 2
  | .error => 3

instance : Ord Severity where
  compare first second := compare first.rank second.rank

/-- A record is what the user of a machine sees. -/
structure Record where
  severity : Severity
  message : String
  deriving DecidableEq

/-- The display shows the severity in brackets before the message. -/
def Record.display (record : Record) : String :=
  "[" ++ record.severity.name ++ "] " ++ record.message

end RegisterMachine
