/-
This file assembles lists of tokens and tells a sink about it.
An assembler keeps the errors of everything that it has assembled so far.
-/

import RegisterMachine.Assembly
import RegisterMachine.Sink

namespace RegisterMachine

/-- An assembler can be used for several lists of tokens, one after another. -/
structure Assembler (Kept : Type) where
  sink : Kept
  errors : List AssemblyError

/-- An assembler has no errors at first. -/
def Assembler.start {Kept : Type} (sink : Kept) : Assembler Kept :=
  ⟨sink, []⟩

/-- The program of a list of tokens has the steps of its assembled tokens in order. -/
def Program.ofTokens (tokens : List Token) : Program Literal :=
  tokens.filterMap fun token => (Assembly.ofToken token).step?

/-- The errors of a list of tokens stand in the order of the tokens. -/
def AssemblyError.ofTokens (tokens : List Token) : List AssemblyError :=
  tokens.filterMap fun token => (Assembly.ofToken token).error?

/-- The events of a list of tokens stand in the order of the tokens. -/
def Assembly.eventsOf (tokens : List Token) : List Event :=
  tokens.flatMap fun token => (Assembly.ofToken token).events

/-- The literals of a program take their binary64 values before it runs. -/
def Program.evaluate (program : Program Literal) : Program Float :=
  program.map (Step.map Literal.toFloat)

/-- Assembling hands out a program and adds to the errors and the sink. -/
def Assembler.assemble {Kept : Type} [Sink Kept] (assembler : Assembler Kept)
    (tokens : List Token) : Program Float × Assembler Kept :=
  (Program.evaluate (Program.ofTokens tokens),
    ⟨Sink.write assembler.sink (Assembly.eventsOf tokens),
      assembler.errors ++ AssemblyError.ofTokens tokens⟩)

end RegisterMachine
