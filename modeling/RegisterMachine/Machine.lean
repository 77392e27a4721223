/-
This file builds machines from source texts and drives them by actions.
A machine is a program with a processor and a sink, and no action changes the program.
-/

import RegisterMachine.Assembler
import RegisterMachine.Run

namespace RegisterMachine

/-- A machine keeps its program from the time it is built. -/
structure Machine (Kept : Type) where
  program : Program Float
  processor : Processor
  sink : Kept

/-- The program of a source holds every line that could be read and assembled. -/
def Program.ofSource (source : String) : Program Float :=
  Program.evaluate (Program.ofTokens (Source.tokens source))

/-- The whole source is read before any token is assembled. -/
def Source.buildEvents (source : String) : List Event :=
  Source.events source ++ Assembly.eventsOf (Source.tokens source) ++
    [.trace (.built (Program.ofSource source).length (Source.errors source).length)]

/-- A new machine has a clear processor with debug off. -/
def Machine.ofSource {Kept : Type} [Sink Kept] (source : String) (sink : Kept) : Machine Kept :=
  ⟨Program.ofSource source, Processor.start false, Sink.write sink (Source.buildEvents source)⟩

/-- This function changes the debug setting alone. -/
def Machine.withDebug {Kept : Type} (machine : Machine Kept) (debug : Bool) : Machine Kept :=
  { machine with processor := { machine.processor with debug } }

/-- The state of the last run is the start of the next one. -/
def Machine.run {Kept : Type} [Sink Kept] (machine : Machine Kept) :
    Option Failure × Machine Kept :=
  let run := machine.processor.run machine.program
  (run.failure?,
    { machine with processor := run.processor, sink := Sink.write machine.sink run.events })

/-- A reset keeps the program and the sink. -/
def Machine.reset {Kept : Type} (machine : Machine Kept) : Machine Kept :=
  { machine with processor := machine.processor.reset }

/-- The user of a machine over a buffer has these actions. -/
inductive Action where
  | run
  | reset
  | debug (on : Bool)
  | clear
  | drain
  | messages (severity : Severity)
  deriving DecidableEq

/-- An answer is what an action hands back. -/
inductive Answer where
  | done
  | ran (failure? : Option Failure)
  | drained (records : List Record)
  | messages (texts : List String)

/-- This function performs one action. -/
def Machine.perform (machine : Machine Buffer) : Action → Answer × Machine Buffer
  | .run =>
      let (failure?, after) := machine.run
      (.ran failure?, after)
  | .reset => (.done, machine.reset)
  | .debug on => (.done, machine.withDebug on)
  | .clear => (.done, { machine with sink := Buffer.empty })
  | .drain =>
      let (records, emptied) := machine.sink.drain
      (.drained records, { machine with sink := emptied })
  | .messages severity => (.messages (machine.sink.messages severity), machine)

end RegisterMachine
