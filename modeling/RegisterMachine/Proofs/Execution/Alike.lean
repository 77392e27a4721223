/-
This file proves that no record of a program shows the sign of a zero.
Alike numbers can stand for each other in the registers and in the literals of the program.
-/

import RegisterMachine.Proofs.Execution.Correspondence
import RegisterMachine.Proofs.Number.Alike

namespace RegisterMachine
open Number

/-- Neither an operation nor a test nor a record tells alike numbers apart. -/
theorem Number.congruence_alike : Number.Congruence Alike where
  one := .refl 1
  add := Alike.add
  sub := Alike.sub
  isNaN_eq := Alike.isNaN_eq
  test_eq := Alike.test_eq
  plain_eq := Alike.plain_eq

/-- Programs that are the same but for alike literals are run with the same records, if the
registers are alike and the flags and the debug setting are the same.  Both runs succeed, or both
fail at the same position with the same kind of error and, if a register is unknown, with the same
name.  In the end the registers are alike again, and the flags are the same. -/
theorem Processor.run_alike {first second : Processor} {program other : Program Float}
    (registers : ∀ register,
      Alike (first.registers.get register) (second.registers.get register))
    (flags : first.flags = second.flags) (debug : first.debug = second.debug)
    (steps : List.Forall₂ (Step.Corresponds Alike) program other) :
    let run := first.run program
    let otherRun := second.run other
    run.records = otherRun.records ∧
      first.firstFailure? program = second.firstFailure? other ∧
      Option.Rel (Failure.Corresponds Alike) run.failure? otherRun.failure? ∧
      (∀ register, Alike (run.processor.registers.get register)
        (otherRun.processor.registers.get register)) ∧
      run.processor.flags = otherRun.processor.flags := by
  intro run otherRun
  have processors : first.Corresponds Alike (fun _ => True) second :=
    ⟨fun register _ => registers register, flags, debug⟩
  have runs := processors.run congruence_alike steps fun _ _ _ _ => trivial
  have positions := processors.firstFailure?_eq congruence_alike steps fun _ _ _ _ => trivial
  exact ⟨runs.records, positions, runs.failure?,
    fun register => runs.processor.registers register trivial, runs.processor.flags⟩

/-- The zero of the sample is in a register, and there is a NaN in another one. -/
def Processor.zeroSample (zero : Float) : Processor :=
  ⟨(Registers.zero.set .a zero).set .b (0.0 / 0.0), {}, true⟩

/-- The last step of the sample fails, and its literal is the zero. -/
def Program.zeroSample (zero : Float) : Program Float :=
  [⟨1, .load "c" zero⟩, ⟨2, .out (.register "a")⟩,
    ⟨3, .compare .equals (.literal zero) (.register "a")⟩,
    ⟨4, .subtract "c" (.register "a")⟩, ⟨5, .out (.register "c")⟩, ⟨6, .out (.register "b")⟩,
    ⟨7, .add "q" (.literal zero)⟩]

theorem Processor.run_alike_zeroSample :
    let run := (Processor.zeroSample 0.0).run (Program.zeroSample 0.0)
    let signedRun := (Processor.zeroSample (-0.0)).run (Program.zeroSample (-0.0))
    signedRun.records = [⟨.info, "Wrote '0' to register 'c'."⟩, ⟨.log, "0"⟩,
        ⟨.info, "'0' is equal to 'a'."⟩, ⟨.info, "Subtracted 'a' from register 'c'."⟩,
        ⟨.log, "0"⟩, ⟨.log, "NaN"⟩] ∧
      (Processor.zeroSample (-0.0)).firstFailure? (Program.zeroSample (-0.0)) = some 6 ∧
      run.failure?.map Failure.context = some "Failed to execute `add $q, !0` on line 7" ∧
      signedRun.failure?.map Failure.context = some "Failed to execute `add $q, !-0` on line 7" ∧
      Alike (run.processor.registers.get .c) (signedRun.processor.registers.get .c) := by
  intro run signedRun
  have zeros : Alike 0.0 (-0.0) := .inl (by decide +kernel)
  have registers (register : Register) :
      Alike ((Processor.zeroSample 0.0).registers.get register)
        ((Processor.zeroSample (-0.0)).registers.get register) := by
    simp only [Processor.zeroSample, Registers.get_set]
    split
    · exact .refl _
    · split
      · exact zeros
      · exact .refl _
  have steps : List.Forall₂ (Step.Corresponds Alike) (Program.zeroSample 0.0)
      (Program.zeroSample (-0.0)) :=
    .cons ⟨rfl, .load "c" zeros⟩ <| .cons ⟨rfl, .out _⟩ <|
      .cons ⟨rfl, .compare .equals (.literal zeros) (.register "a")⟩ <|
      .cons ⟨rfl, .subtract "c" (.register "a")⟩ <| .cons ⟨rfl, .out _⟩ <|
      .cons ⟨rfl, .out _⟩ <| .cons ⟨rfl, .add "q" (.literal zeros)⟩ .nil
  obtain ⟨records, positions, -, after, -⟩ := Processor.run_alike registers rfl rfl steps
  refine ⟨records.symm.trans ?_, positions.symm.trans ?_, ?_, ?_, after .c⟩
  · decide +kernel
  · decide +kernel
  · decide +kernel
  · decide +kernel

end RegisterMachine
