/-
This file proves that each flag and each register ends as the last step that wrote it left it.
Only steps that succeed write anything, and what no such step has written is as it was at first.
-/

import RegisterMachine.Proofs.Execution.Frame
import RegisterMachine.Proofs.Execution.NumberMap
import RegisterMachine.Proofs.Execution.Silence

namespace RegisterMachine

/-- The flag of an instruction is the one that it writes. -/
def Instruction.flag? {Value : Type} : Instruction Value → Option Flag
  | .compare comparison _ _ => some comparison.flag
  | .load _ _ | .move _ _ | .increment _ | .decrement _ | .add _ _ | .subtract _ _ | .out _ => none

/-- A comparison results in the test of the numbers that its operands have before it. -/
inductive Instruction.Results (registers : Registers) : Instruction Float → Bool → Prop where
  | compare {left right : Operand Float} {first second : Float}
      (lefts : registers.TakesIn left first) (rights : registers.TakesIn right second)
      (comparison : Comparison) :
      Results registers (.compare comparison left right) (comparison.test first second)

/-- An instruction produces a number for its destination, which holds the current number before. -/
inductive Instruction.Produces (registers : Registers) (current : Float) :
    Instruction Float → Float → Prop where
  | load (register : String) (value : Float) : Produces registers current (.load register value) value
  | move {source : String} {value : Float} (taken : registers.TakesIn (.register source) value)
      (destination : String) : Produces registers current (.move source destination) value
  | increment (register : String) :
      Produces registers current (.increment register) (current + 1)
  | decrement (register : String) :
      Produces registers current (.decrement register) (current - 1)
  | add (register : String) {operand : Operand Float} {value : Float}
      (taken : registers.TakesIn operand value) :
      Produces registers current (.add register operand) (current + value)
  | subtract (register : String) {operand : Operand Float} {value : Float}
      (taken : registers.TakesIn operand value) :
      Produces registers current (.subtract register operand) (current - value)

/-- An instruction that succeeds writes one register, writes one flag or writes nothing. -/
inductive Processor.Effect (before : Processor) : Instruction Float → Processor → Prop where
  | number {instruction : Instruction Float} {register : Register} {value : Float}
      (destination : instruction.destination? = some register.name) (silent : instruction.flag? = none)
      (produced : instruction.Produces before.registers (before.registers.get register) value) :
      Effect before instruction { before with registers := before.registers.set register value }
  | result {instruction : Instruction Float} {flag : Flag} {result : Bool}
      (destination : instruction.flag? = some flag) (silent : instruction.destination? = none)
      (results : instruction.Results before.registers result) :
      Effect before instruction { before with flags := before.flags.set flag result }
  | nothing (emission : Emission) : Effect before (.out emission) before

/-- A part of the state keeps its start unless a completed step writes it.
Otherwise it ends as the last writer yields it in the state before that step. -/
inductive Processor.LastWritten {Part : Type} (processor : Processor) (program : Program Float)
    (writes : Instruction Float → Prop) (yields : Processor → Instruction Float → Part → Prop)
    (start : Part) : Part → Prop where
  | kept (unwritten : ∀ step ∈ processor.completed program, ¬writes step.instruction) :
      LastWritten processor program writes yields start start
  | written {earlier later : Program Float} {step : Step Float} {part : Part}
      (whole : processor.completed program = earlier ++ step :: later)
      (writer : writes step.instruction)
      (last : ∀ next ∈ later, ¬writes next.instruction)
      (yielded : yields (processor.fold earlier).1 step.instruction part) :
      LastWritten processor program writes yields start part

variable {Part : Type} {writes : Instruction Float → Prop}
  {yields : Processor → Instruction Float → Part → Prop}

/-- An update that succeeds has found its register. -/
theorem Processor.exists_of_on_update (combine : Float → Float → Float) {name : String}
    {value : Float} {before after : Processor}
    (updated : (Processor.onRegisters (Registers.update combine name value)).on before =
      (.ok (), after)) :
    ∃ register : Register, some name = some register.name ∧ after = { before with
      registers := before.registers.set register
        (combine (before.registers.get register) value) } := by
  rw [Processor.on_onRegisters] at updated
  cases found : Register.ofName? name with
  | none =>
      rw [Registers.on_update_of_none found] at updated
      cases updated
  | some register =>
      cases number : value.isNaN with
      | true =>
          rw [Registers.on_update_of_isNaN found number] at updated
          cases updated
      | false =>
          rw [Registers.on_update found number] at updated
          cases updated
          exact ⟨register, congrArg some (Register.eq_name_of_ofName? found), rfl⟩

/-- A change that first takes in an operand succeeds only if the operand has a number. -/
theorem Processor.exists_takesIn_of_ok {before after : Processor} {operand : Operand Float}
    {next : Float → Change Processor Unit}
    (changed : (match before.registers.value operand with
      | .ok value => (next value).on before
      | .error error => (.error error, before)) = (.ok (), after)) :
    ∃ value, before.registers.TakesIn operand value ∧ (next value).on before = (.ok (), after) := by
  cases read : before.registers.value operand with
  | error error =>
      rw [read] at changed
      cases changed
  | ok value =>
      rw [read] at changed
      exact ⟨value, Registers.value_eq_ok_iff.mp read, changed⟩

/-- A comparison that succeeds has read both of its operands. -/
theorem Processor.results_of_compare {comparison : Comparison} {left right : Operand Float}
    {before : Processor} {result : Bool}
    (compared : before.compare comparison left right = .ok result) :
    (Instruction.compare comparison left right).Results before.registers result := by
  rw [Processor.compare_eq, Registers.outcome] at compared
  cases lefts : before.registers.value left with
  | error error =>
      rw [lefts] at compared
      cases compared
  | ok first =>
      cases rights : before.registers.value right with
      | error error =>
          rw [lefts, rights] at compared
          cases compared
      | ok second =>
          rw [lefts, rights] at compared
          simp only [bind, Except.bind] at compared
          split at compared
          · cases compared
          · cases compared
            exact .compare (Registers.value_eq_ok_iff.mp lefts)
              (Registers.value_eq_ok_iff.mp rights) comparison

/-- Every instruction that succeeds has one of the three effects. -/
theorem Processor.effect_of_advance {instruction : Instruction Float} {before after : Processor}
    (advanced : (Processor.advance instruction).on before = (.ok (), after)) :
    before.Effect instruction after := by
  cases instruction with
  | load register value =>
      obtain ⟨found, destination, rfl⟩ :=
        Processor.exists_of_on_update (fun _ incoming => incoming) advanced
      exact .number destination rfl (.load register value)
  | move source destination =>
      rw [Processor.on_advance_move] at advanced
      obtain ⟨value, taken, moved⟩ := Processor.exists_takesIn_of_ok advanced
      obtain ⟨found, written, rfl⟩ :=
        Processor.exists_of_on_update (fun _ incoming => incoming) moved
      exact .number written rfl (.move taken destination)
  | increment register =>
      obtain ⟨found, destination, rfl⟩ := Processor.exists_of_on_update (· + ·) advanced
      exact .number destination rfl (.increment register)
  | decrement register =>
      obtain ⟨found, destination, rfl⟩ := Processor.exists_of_on_update (· - ·) advanced
      exact .number destination rfl (.decrement register)
  | add register operand =>
      rw [Processor.on_advance_add] at advanced
      obtain ⟨value, taken, added⟩ := Processor.exists_takesIn_of_ok advanced
      obtain ⟨found, destination, rfl⟩ := Processor.exists_of_on_update (· + ·) added
      exact .number destination rfl (.add register taken)
  | subtract register operand =>
      rw [Processor.on_advance_subtract] at advanced
      obtain ⟨value, taken, subtracted⟩ := Processor.exists_takesIn_of_ok advanced
      obtain ⟨found, destination, rfl⟩ := Processor.exists_of_on_update (· - ·) subtracted
      exact .number destination rfl (.subtract register taken)
  | compare comparison left right =>
      rw [Processor.on_advance_compare] at advanced
      cases compared : before.compare comparison left right with
      | error error =>
          rw [compared] at advanced
          cases advanced
      | ok result =>
          rw [compared] at advanced
          cases advanced
          exact .result rfl rfl (Processor.results_of_compare compared)
  | out emission =>
      cases advanced
      exact .nothing emission

/-- What the rest of a program writes last is written after the first step. -/
theorem Processor.LastWritten.cons {processor after : Processor} {step : Step Float}
    {rest : Program Float} {record? : Option Record} {start reached part : Part}
    (executed : (Processor.execute step.instruction).on processor = (.ok record?, after))
    (kept : ¬writes step.instruction → reached = start)
    (yielded : writes step.instruction → yields processor step.instruction reached)
    (later : after.LastWritten rest writes yields reached part) :
    processor.LastWritten (step :: rest) writes yields start part := by
  have completed : processor.completed (step :: rest) = step :: after.completed rest := by
    rw [Processor.completed_cons, executed]
  cases later with
  | kept unwritten =>
      by_cases writer : writes step.instruction
      · have whole : processor.completed (step :: rest) = [] ++ step :: after.completed rest :=
          completed
        exact .written whole writer unwritten (yielded writer)
      · rw [kept writer]
        refine .kept fun next member => ?_
        rw [completed, List.mem_cons] at member
        rcases member with rfl | behind
        · exact writer
        · exact unwritten next behind
  | @written earlier later next _ whole writer last yielded =>
      have fold : (processor.fold (step :: earlier)).1 = (after.fold earlier).1 := by
        rw [Processor.fold_cons, executed]
      have longer : processor.completed (step :: rest) = (step :: earlier) ++ next :: later := by
        rw [completed, whole, List.cons_append]
      exact .written longer writer last (fold ▸ yielded)

/-- If each effect either keeps a part of the state or yields it, the run leaves the part as its last
writer does. -/
theorem Processor.lastWritten_runSteps (view : Processor → Part)
    (kept : ∀ {before after instruction}, before.Effect instruction after →
      ¬writes instruction → view after = view before)
    (yielded : ∀ {before after instruction}, before.Effect instruction after →
      writes instruction → yields before instruction (view after))
    (processor : Processor) (program : Program Float) :
    processor.LastWritten program writes yields (view processor)
      (view (processor.runSteps program).processor) := by
  induction program generalizing processor with
  | nil => exact .kept fun step member => by cases member
  | cons step rest ih =>
      rcases executed : (Processor.execute step.instruction).on processor with
        ⟨error | record?, after⟩
      · rw [Processor.runSteps_cons, Processor.step_error executed]
        refine .kept fun next member => ?_
        rw [Processor.completed_cons, executed] at member
        cases member
      · have effect := Processor.effect_of_advance (Processor.on_advance_of_execute executed).1
        rw [Processor.runSteps_cons, Processor.step_ok executed]
        exact .cons executed (kept effect) (yielded effect) (ih after)

theorem Processor.lastWritten_flag (processor : Processor) (program : Program Float) (flag : Flag) :
    processor.LastWritten program (fun instruction => instruction.flag? = some flag)
      (fun before instruction result => instruction.Results before.registers result)
      (processor.flags.get flag) ((processor.runSteps program).processor.flags.get flag) := by
  apply Processor.lastWritten_runSteps fun reached => reached.flags.get flag
  · intro before after instruction effect other
    cases effect with
    | number | nothing => rfl
    | result destination =>
        rw [Flags.get_set, if_neg]
        rintro rfl
        exact other destination
  · intro before after instruction effect writer
    cases effect with
    | number _ silent => cases silent.symm.trans writer
    | result destination _ results =>
        cases destination.symm.trans writer
        rw [Flags.get_set, if_pos rfl]
        exact results
    | nothing => cases writer

theorem Processor.lastWritten_register (processor : Processor) (program : Program Float)
    (register : Register) :
    processor.LastWritten program
      (fun instruction => instruction.destination? = some register.name)
      (fun before instruction value =>
        instruction.Produces before.registers (before.registers.get register) value)
      (processor.registers.get register)
      ((processor.runSteps program).processor.registers.get register) := by
  apply Processor.lastWritten_runSteps fun reached => reached.registers.get register
  · intro before after instruction effect other
    cases effect with
    | number destination =>
        apply Registers.get_set_of_ne
        rintro rfl
        exact other destination
    | result | nothing => rfl
  · intro before after instruction effect writer
    cases effect with
    | number destination _ produced =>
        obtain rfl := Register.name_injective (Option.some.inj (destination.symm.trans writer))
        rw [Registers.get_set_self]
        exact produced
    | result _ silent => cases silent.symm.trans writer
    | nothing => cases writer

/-- The flags have no influence on whether an instruction fails or on the registers after it. -/
theorem Processor.on_advance_of_registers {first second : Processor}
    (same : first.registers = second.registers) (instruction : Instruction Float) :
    ((Processor.advance instruction).on first).1 = ((Processor.advance instruction).on second).1 ∧
      ((Processor.advance instruction).on first).2.registers =
        ((Processor.advance instruction).on second).2.registers := by
  have changed (change : Change Registers Unit) :
      ((Processor.onRegisters change).on first).1 = ((Processor.onRegisters change).on second).1 ∧
        ((Processor.onRegisters change).on first).2.registers =
          ((Processor.onRegisters change).on second).2.registers := by
    simp only [Processor.on_onRegisters, same, and_self]
  cases instruction with
  | load register value => exact changed (Registers.write register value)
  | move source destination => exact changed (Registers.move source destination)
  | increment register => exact changed (Registers.increment register)
  | decrement register => exact changed (Registers.decrement register)
  | add register operand =>
      cases operand with
      | register source => exact changed (Registers.addRegister register source)
      | literal value => exact changed (Registers.addValue register value)
  | subtract register operand =>
      cases operand with
      | register source => exact changed (Registers.subtractRegister register source)
      | literal value => exact changed (Registers.subtractValue register value)
  | compare comparison left right =>
      have compared : first.compare comparison left right = second.compare comparison left right := by
        rw [Processor.compare_eq, Processor.compare_eq, same]
      rw [Processor.on_advance_compare, Processor.on_advance_compare, compared]
      cases second.compare comparison left right <;> exact ⟨rfl, same⟩
  | out emission => exact ⟨rfl, same⟩

theorem Processor.runSteps_of_registers {first second : Processor}
    (same : first.registers = second.registers) (program : Program Float) :
    (first.runSteps program).processor.registers = (second.runSteps program).processor.registers ∧
      (first.runSteps program).failure? = (second.runSteps program).failure? := by
  induction program generalizing first second with
  | nil => exact ⟨same, rfl⟩
  | cons step rest ih =>
      obtain ⟨results, registers⟩ := Processor.on_advance_of_registers same step.instruction
      rw [← Processor.processor_step, ← Processor.processor_step] at registers
      have failures : (first.step step).failure? = (second.step step).failure? := by
        rw [Processor.failure?_step, Processor.failure?_step, Change.fault?, Change.fault?, results]
      rw [Processor.runSteps_cons, Processor.runSteps_cons, Run.andThen, Run.andThen, failures]
      cases failed : (second.step step).failure? with
      | some failure => exact ⟨registers, failures⟩
      | none => exact ih registers

/-- Each flag ends as the result of the last comparison of its kind that succeeded, and each register
with the number that the last instruction with this destination produced.  What was never written
keeps its start, an output changes nothing, and no step changes the debug setting.  The flags at the
start matter neither for the registers in the end nor for the result. -/
theorem Processor.run_lastWritten (processor : Processor) (program : Program Float) :
    let run := processor.run program
    (∀ flag, processor.LastWritten program (fun instruction => instruction.flag? = some flag)
      (fun before instruction result => instruction.Results before.registers result)
      (processor.flags.get flag) (run.processor.flags.get flag)) ∧
    (∀ register : Register, processor.LastWritten program
      (fun instruction => instruction.destination? = some register.name)
      (fun before instruction value =>
        instruction.Produces before.registers (before.registers.get register) value)
      (processor.registers.get register) (run.processor.registers.get register)) ∧
    (∀ (before : Processor) (line : Nat) (emission : Emission),
      (before.step ⟨line, .out emission⟩).processor = before) ∧
    run.processor.debug = processor.debug ∧
    ∀ flags, let other := { processor with flags }.run program
      other.processor.registers = run.processor.registers ∧ other.failure? = run.failure? := by
  intro run
  have agrees : run.Agrees (processor.runSteps program) := processor.run_agrees program
  rw [agrees.processor]
  refine ⟨processor.lastWritten_flag program, processor.lastWritten_register program, ?_,
    processor.debug_runSteps program, ?_⟩
  · intro before line emission
    rfl
  · intro flags other
    have agreesOther := { processor with flags }.run_agrees program
    have same : { processor with flags }.registers = processor.registers := rfl
    obtain ⟨registers, failures⟩ := Processor.runSteps_of_registers same program
    exact ⟨(congrArg Processor.registers agreesOther.processor).trans registers,
      (agreesOther.failure?.trans failures).trans agrees.failure?.symm⟩

end RegisterMachine
