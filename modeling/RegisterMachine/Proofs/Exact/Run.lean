/-
This file proves that a whole run does what the exact run does.
The records are the same too, since every integer within the limit has one canonical decimal.
-/

import RegisterMachine.Proofs.Exact.Refinement

namespace RegisterMachine
open Number

variable {processor : Processor} {exact : ExactProcessor}

/-- A run refines an exact one if it ends in the same way with the same records. -/
structure Run.Refines (run : Run) (reference : ExactRun) : Prop where
  processor : run.processor.Refines reference.processor
  records : run.records = reference.records
  failure? : run.failure? =
    reference.failure?.map fun failure => ⟨failure.step.map Literal.toFloat, failure.error⟩

theorem Literal.plain_toFloat {literal : Literal} (small : literal.toInt.natAbs ≤ limit) :
    plain literal.toFloat = toString literal.toInt :=
  (Literal.denotes_toFloat small).plain_eq small

theorem Operand.plain_map {operand : Operand Literal}
    (small : ∀ literal ∈ operand.literals, literal.toInt.natAbs ≤ limit) :
    (operand.map Literal.toFloat).plain Number.plain =
      operand.plain fun literal => toString literal.toInt := by
  cases operand with
  | register name => rfl
  | literal literal => exact Literal.plain_toFloat (small literal List.mem_cons_self)

/-- The sentence of an instruction shows the canonical decimals of its literals. -/
theorem Instruction.sentence?_map {instruction : Instruction Literal}
    (small : ∀ literal ∈ instruction.literals, literal.toInt.natAbs ≤ limit) (flags : Flags) :
    (instruction.map Literal.toFloat).sentence? Number.plain flags =
      instruction.sentence? (fun literal => toString literal.toInt) flags := by
  cases instruction with
  | load register literal =>
      simp only [Instruction.map, Instruction.sentence?,
        Literal.plain_toFloat (small literal List.mem_cons_self)]
  | add register operand =>
      simp only [Instruction.map, Instruction.sentence?, Operand.plain_map small]
  | subtract register operand =>
      simp only [Instruction.map, Instruction.sentence?, Operand.plain_map small]
  | compare comparison left right =>
      have first := Operand.plain_map fun literal member =>
        small literal (List.mem_append_left _ member)
      have second := Operand.plain_map fun literal member =>
        small literal (List.mem_append_right _ member)
      simp only [Instruction.map, Instruction.sentence?, first, second]
  | move source destination => rfl
  | increment register => rfl
  | decrement register => rfl
  | out emission => rfl

theorem Processor.Refines.emit (refines : processor.Refines exact) (bounded : exact.Within)
    (emission : Emission) : processor.emit emission = exact.emit emission := by
  cases emission with
  | register name =>
      cases found : Register.ofName? name with
      | none => simp only [Processor.emit, ExactProcessor.emit, found]
      | some register =>
          have shown := (refines.registers register).plain_eq (bounded register)
          simp only [Processor.emit, ExactProcessor.emit, found, shown]
  | flag name =>
      cases found : Flag.ofName? name with
      | none => simp only [Processor.emit, ExactProcessor.emit, found]
      | some flag => simp only [Processor.emit, ExactProcessor.emit, found, refines.flags]
  | text content => rfl

/-- Both processors report the same of an instruction, with debug on and with debug off. -/
theorem Processor.Refines.report? (refines : processor.Refines exact) (bounded : exact.Within)
    {instruction : Instruction Literal}
    (small : ∀ literal ∈ instruction.literals, literal.toInt.natAbs ≤ limit) :
    processor.report? (instruction.map Literal.toFloat) = exact.report? instruction := by
  have sentence := Instruction.sentence?_map small exact.flags
  cases instruction with
  | out emission => exact congrArg some (refines.emit bounded emission)
  | load | move | increment | decrement | add | subtract | compare =>
      change (if processor.debug then
        (Instruction.sentence? Number.plain processor.flags
          (Instruction.map Literal.toFloat _)).map _ else none) = _
      rw [refines.debug, refines.flags, sentence]
      rfl

/-- A step that succeeds exactly succeeds, and reports the same. -/
theorem Processor.Refines.execute_ok {after : ExactProcessor} (refines : processor.Refines exact)
    {instruction : Instruction Literal}
    (small : ∀ literal ∈ instruction.literals, literal.toInt.natAbs ≤ limit)
    (reached : exact.advance instruction = .ok after) (within : after.Within) :
    ∃ next, (Processor.execute (instruction.map Literal.toFloat)).on processor =
        (.ok (after.report? instruction), next) ∧ next.Refines after := by
  have simulates := refines.advance small (by
    intro other same
    rw [reached] at same
    cases same
    exact within)
  rw [reached] at simulates
  obtain ⟨succeeded, refined⟩ := simulates
  rw [Processor.on_execute]
  generalize (Processor.advance (instruction.map Literal.toFloat)).on processor = outcome
    at succeeded refined ⊢
  obtain ⟨result, next⟩ := outcome
  change result = .ok () at succeeded
  change next.Refines after at refined
  subst succeeded
  have report := refined.report? within small
  exact ⟨next, by simp only [report], refined⟩

/-- A step that fails exactly fails with the same error. -/
theorem Processor.Refines.execute_error {error : RegisterError}
    (refines : processor.Refines exact) {instruction : Instruction Literal}
    (small : ∀ literal ∈ instruction.literals, literal.toInt.natAbs ≤ limit)
    (failed : exact.advance instruction = .error error) :
    ∃ next, (Processor.execute (instruction.map Literal.toFloat)).on processor =
      (.error error, next) := by
  have simulates := refines.advance small (by
    intro other same
    rw [failed] at same
    cases same)
  rw [failed] at simulates
  rw [Processor.on_execute]
  generalize (Processor.advance (instruction.map Literal.toFloat)).on processor = outcome
    at simulates ⊢
  obtain ⟨result, next⟩ := outcome
  change result = .error error at simulates
  subst simulates
  exact ⟨next, rfl⟩

/-- The steps refine the exact run from any position, and the first failure is at its position. -/
theorem Processor.Refines.runSteps {program : Program Literal} (refines : processor.Refines exact)
    (within : exact.RunsWithin program) (position : Nat) :
    (processor.runSteps (Program.evaluate program)).Refines (exact.runFrom position program) ∧
      (processor.firstFailure? (Program.evaluate program)).map (· + position) =
        (exact.runFrom position program).failure?.map ExactFailure.position := by
  induction program generalizing processor exact position with
  | nil => exact ⟨⟨refines, rfl, rfl⟩, rfl⟩
  | cons step rest ih =>
      obtain ⟨small, later⟩ := within
      have evaluated : Program.evaluate (step :: rest) =
          step.map Literal.toFloat :: Program.evaluate rest := rfl
      rw [evaluated, Processor.firstFailure?_cons, ExactProcessor.runFrom]
      cases outcome : exact.advance step.instruction with
      | error error =>
          obtain ⟨next, executed⟩ := refines.execute_error small outcome
          change (Processor.execute (step.map Literal.toFloat).instruction).on processor = _
            at executed
          rw [Processor.runSteps_cons, Processor.step_error executed, executed]
          exact ⟨⟨refines, rfl, rfl⟩, congrArg some (Nat.zero_add position)⟩
      | ok after =>
          rw [outcome] at later
          obtain ⟨next, executed, refined⟩ := refines.execute_ok small outcome later.1
          change (Processor.execute (step.map Literal.toFloat).instruction).on processor = _
            at executed
          obtain ⟨tail, positions⟩ := ih refined later.2 (position + 1)
          have first := Processor.step_ok executed
          refine ⟨⟨?_, ?_, ?_⟩, ?_⟩
          · simp only [Processor.runSteps_cons, first, Run.andThen]
            exact tail.processor
          · rw [Processor.records_runSteps_cons executed, tail.records]
          · simp only [Processor.runSteps_cons, first, Run.andThen]
            exact tail.failure?
          · have shifted : ((· + position) ∘ (· + 1) : Nat → Nat) = (· + (position + 1)) := by
              funext earlier
              exact Nat.add_right_comm earlier 1 position
            rw [executed, Option.map_map, shifted]
            exact positions

theorem Run.Agrees.refines {first second : Run} {reference : ExactRun}
    (agrees : first.Agrees second) (refines : second.Refines reference) :
    first.Refines reference :=
  ⟨agrees.processor ▸ refines.processor, agrees.records.trans refines.records,
    agrees.failure?.trans refines.failure?⟩

/-- A run of a source does what its exact run does, if the exact run stays within the limit.
It fails at the same step or not at all, its registers denote the integers of the exact run,
and its flags and records are the same. -/
theorem Processor.run_refines_exact (source : String) (processor : Processor)
    (exact : ExactProcessor) (refines : processor.Refines exact)
    (within : exact.RunsWithin (Program.ofTokens (Source.tokens source))) :
    (processor.run (Program.ofSource source)).Refines
        (exact.run (Program.ofTokens (Source.tokens source))) ∧
      processor.firstFailure? (Program.ofSource source) =
        (exact.run (Program.ofTokens (Source.tokens source))).failure?.map
          ExactFailure.position := by
  obtain ⟨run, position⟩ := refines.runSteps within 0
  exact ⟨(processor.run_agrees (Program.ofSource source)).refines run,
    Option.map_id'.symm.trans position⟩

theorem Processor.start_refines (debug : Bool) :
    (Processor.start debug).Refines (ExactProcessor.start debug) := by
  refine ⟨?_, rfl, rfl⟩
  intro register
  change Denotes (Registers.zero.get register) ((0 : Nat) : Int)
  rw [Registers.get_zero]
  exact denotes_ofNat (by decide)

/-- The sample doubles a register in place, passes a negative zero, reaches the limit,
compares a literal with a register, and fails before its last line. -/
def Program.exactSource : String :=
  "lod $a, !-0b101\nmov $a, $b\nadd $a, $a\nout $a\nlod $c, !-0\nout $c\n" ++
    "lod $d, !9007199254740991\ninc $d\ngrt !0xff, $d\nsub $b, !-5\nequ $b, $c\n" ++
    "out %EQ\nout $zz\nmov $zz, $yy\ninc $a"

theorem Processor.run_refines_exact_sample :
    ((Processor.start true).run (Program.ofSource Program.exactSource)).Refines
        ((ExactProcessor.start true).run
          (Program.ofTokens (Source.tokens Program.exactSource))) ∧
      (Processor.start true).firstFailure? (Program.ofSource Program.exactSource) = some 13 ∧
      ((Processor.start true).run (Program.ofSource Program.exactSource)).records.map
          Record.message =
        ["Wrote '-5' to register 'a'.", "Moved 'a' to register 'b'.",
          "Added 'a' to register 'a'.", "-10", "Wrote '0' to register 'c'.", "0",
          "Wrote '9007199254740991' to register 'd'.", "Incremented register 'd'.",
          "'255' is not greater than 'd'.", "Subtracted '-5' from register 'b'.",
          "'b' is equal to 'c'.", "true", "Unknown register 'zz'."] := by
  have stopped : ((ExactProcessor.start true).run
      (Program.ofTokens (Source.tokens Program.exactSource))).failure?.map
        ExactFailure.position = some 13 := by
    decide +kernel
  have both := Processor.run_refines_exact Program.exactSource (Processor.start true)
    (ExactProcessor.start true) (Processor.start_refines true) (by decide +kernel)
  refine ⟨both.1, both.2.trans stopped, ?_⟩
  rw [both.1.records]
  decide +kernel

end RegisterMachine
