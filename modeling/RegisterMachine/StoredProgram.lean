/-
This file builds a machine from a stored program.
The program is stored as bytes, and the bytes must be a text in UTF-8.
-/

import RegisterMachine.Machine

namespace RegisterMachine

/-- A path leads to nothing, to a directory, or to a file with its bytes. -/
inductive Stored where
  | missing
  | directory
  | file (bytes : ByteArray)

/-- A program cannot be read for one of three causes. -/
inductive LoadError.Cause where
  | notFound
  | isDirectory
  | invalidData
  deriving DecidableEq

/-- The error keeps the path of the program. -/
structure LoadError where
  path : String
  cause : LoadError.Cause
  deriving DecidableEq

/-- The message names the path and leaves the cause out. -/
def LoadError.message (error : LoadError) : String :=
  "Failed to read program `" ++ error.path ++ "`"

/-- Only a file with valid bytes has a text, and a byte order mark is part of it. -/
def Stored.text : Stored → Except LoadError.Cause String
  | .missing => .error .notFound
  | .directory => .error .isDirectory
  | .file bytes =>
      match String.fromUTF8? bytes with
      | some text => .ok text
      | none => .error .invalidData

/-- A stored program is loaded as if its text were given. -/
def Machine.load {Kept : Type} [Sink Kept] (path : String) (stored : Stored) (sink : Kept) :
    Except LoadError (Machine Kept) :=
  match stored.text with
  | .ok source => .ok (Machine.ofSource source sink)
  | .error cause => .error ⟨path, cause⟩

end RegisterMachine
