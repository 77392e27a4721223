/-
This file runs two processors side by side whose numbers the operations cannot tell apart.
Only the registers that a program names have to correspond, for no other register is looked at.
-/

import Mathlib.Data.List.Forall2
import RegisterMachine.Proofs.Execution.Fault

namespace RegisterMachine

/-- A congruence is kept by the operations on numbers, and no test and no record shows it. -/
structure Number.Congruence (related : Float → Float → Prop) : Prop where
  one : related 1 1
  add : ∀ {left right leftOther rightOther : Float}, related left leftOther →
    related right rightOther → related (left + right) (leftOther + rightOther)
  sub : ∀ {left right leftOther rightOther : Float}, related left leftOther →
    related right rightOther → related (left - right) (leftOther - rightOther)
  isNaN_eq : ∀ {value other : Float}, related value other → value.isNaN = other.isNaN
  test_eq : ∀ {left right leftOther rightOther : Float}, related left leftOther →
    related right rightOther → ∀ comparison : Comparison,
      comparison.test left right = comparison.test leftOther rightOther
  plain_eq : ∀ {value other : Float}, related value other →
    Number.plain value = Number.plain other

/-- Corresponding operands name the same register or have related literals. -/
inductive Operand.Corresponds (related : Float → Float → Prop) :
    Operand Float → Operand Float → Prop where
  | register (name : String) : Operand.Corresponds related (.register name) (.register name)
  | literal {value other : Float} (holds : related value other) :
      Operand.Corresponds related (.literal value) (.literal other)

/-- Corresponding instructions are the same but for their literals, which are related. -/
inductive Instruction.Corresponds (related : Float → Float → Prop) :
    Instruction Float → Instruction Float → Prop where
  | load (register : String) {value other : Float} (holds : related value other) :
      Instruction.Corresponds related (.load register value) (.load register other)
  | move (source destination : String) :
      Instruction.Corresponds related (.move source destination) (.move source destination)
  | increment (register : String) :
      Instruction.Corresponds related (.increment register) (.increment register)
  | decrement (register : String) :
      Instruction.Corresponds related (.decrement register) (.decrement register)
  | add (register : String) {operand other : Operand Float}
      (operands : operand.Corresponds related other) :
      Instruction.Corresponds related (.add register operand) (.add register other)
  | subtract (register : String) {operand other : Operand Float}
      (operands : operand.Corresponds related other) :
      Instruction.Corresponds related (.subtract register operand) (.subtract register other)
  | compare (comparison : Comparison) {left right leftOther rightOther : Operand Float}
      (lefts : left.Corresponds related leftOther)
      (rights : right.Corresponds related rightOther) :
      Instruction.Corresponds related (.compare comparison left right)
        (.compare comparison leftOther rightOther)
  | out (emission : Emission) : Instruction.Corresponds related (.out emission) (.out emission)

/-- Corresponding steps stand on the same line. -/
structure Step.Corresponds (related : Float → Float → Prop) (first second : Step Float) :
    Prop where
  line : first.line = second.line
  instruction : first.instruction.Corresponds related second.instruction

/-- Corresponding errors are of the same kind, and an unknown register has the same name in both. -/
inductive RegisterError.Corresponds (related : Float → Float → Prop) :
    RegisterError → RegisterError → Prop where
  | unknownRegister (name : String) :
      RegisterError.Corresponds related (.unknownRegister name) (.unknownRegister name)
  | notANumber {value other : Float} (holds : related value other) :
      RegisterError.Corresponds related (.notANumber value) (.notANumber other)

/-- Corresponding failures are those of corresponding steps with corresponding errors. -/
structure Failure.Corresponds (related : Float → Float → Prop) (first second : Failure) :
    Prop where
  step : first.step.Corresponds related second.step
  error : first.error.Corresponds related second.error

/-- Registers correspond when the numbers in those of the given names are related. -/
def Registers.Corresponds (related : Float → Float → Prop) (named : String → Prop)
    (first second : Registers) : Prop :=
  ∀ register : Register, named register.name →
    related (first.get register) (second.get register)

/-- Corresponding processors have the same flags and the same debug setting. -/
structure Processor.Corresponds (related : Float → Float → Prop) (named : String → Prop)
    (first second : Processor) : Prop where
  registers : first.registers.Corresponds related named second.registers
  flags : first.flags = second.flags
  debug : first.debug = second.debug

/-- Corresponding runs hand out the same records and end in the same way. -/
structure Run.Corresponds (related : Float → Float → Prop) (named : String → Prop)
    (first second : Run) : Prop where
  processor : first.processor.Corresponds related named second.processor
  records : first.records = second.records
  failure? : Option.Rel (Failure.Corresponds related) first.failure? second.failure?

/-- Results correspond when both are values or both are errors, and these correspond. -/
inductive ResultsCorrespond {Value Other : Type} (related : Float → Float → Prop)
    (values : Value → Other → Prop) :
    Except RegisterError Value → Except RegisterError Other → Prop where
  | ok {value : Value} {other : Other} (holds : values value other) :
      ResultsCorrespond related values (.ok value) (.ok other)
  | error {error other : RegisterError} (errors : error.Corresponds related other) :
      ResultsCorrespond related values (.error error) (.error other)

/-- Corresponding changes lead from corresponding states to corresponding results and states. -/
def Change.Corresponds {State Value Other : Type} (related : Float → Float → Prop)
    (states : State → State → Prop) (values : Value → Other → Prop)
    (first : Change State Value) (second : Change State Other) : Prop :=
  ∀ before beforeOther, states before beforeOther →
    ResultsCorrespond related values (first.on before).1 (second.on beforeOther).1 ∧
      states (first.on before).2 (second.on beforeOther).2

variable {related : Float → Float → Prop} {named : String → Prop}
variable {State Value Other Next NextOther : Type} {states : State → State → Prop}
variable {values : Value → Other → Prop} {nexts : Next → NextOther → Prop}

theorem ResultsCorrespond.bind {first : Except RegisterError Value}
    {second : Except RegisterError Other} (results : ResultsCorrespond related values first second)
    {next : Value → Except RegisterError Next} {nextOther : Other → Except RegisterError NextOther}
    (later : ∀ value other, values value other →
      ResultsCorrespond related nexts (next value) (nextOther other)) :
    ResultsCorrespond related nexts (first >>= next) (second >>= nextOther) := by
  cases results with
  | ok holds => exact later _ _ holds
  | error errors => exact .error errors

theorem Change.corresponds_lift {first : Except RegisterError Value}
    {second : Except RegisterError Other}
    (results : ResultsCorrespond related values first second) :
    Change.Corresponds related states values (liftM first) (liftM second) :=
  fun _ _ start => ⟨results, start⟩

theorem Change.corresponds_pure {value : Value} {other : Other} (holds : values value other) :
    Change.Corresponds related states values (pure value) (pure other) :=
  fun _ _ start => ⟨.ok holds, start⟩

theorem Change.corresponds_getThe :
    Change.Corresponds related states states (getThe State) (getThe State) :=
  fun _ _ start => ⟨.ok start, start⟩

theorem Change.corresponds_modify {update updateOther : State → State}
    (keeps : ∀ before beforeOther, states before beforeOther →
      states (update before) (updateOther beforeOther)) :
    Change.Corresponds related states Eq (modify update) (modify updateOther) :=
  fun before beforeOther start => ⟨.ok rfl, keeps before beforeOther start⟩

/-- What follows corresponding changes starts in corresponding states, or both have failed. -/
theorem Change.Corresponds.bind {first : Change State Value} {second : Change State Other}
    (changes : Change.Corresponds related states values first second)
    {next : Value → Change State Next} {nextOther : Other → Change State NextOther}
    (later : ∀ value other, values value other →
      Change.Corresponds related states nexts (next value) (nextOther other)) :
    Change.Corresponds related states nexts (first >>= next) (second >>= nextOther) := by
  intro before beforeOther start
  obtain ⟨results, after⟩ := changes before beforeOther start
  rw [Change.on_bind, Change.on_bind]
  generalize first.on before = outcome at results after ⊢
  generalize second.on beforeOther = outcomeOther at results after ⊢
  obtain ⟨result, reached⟩ := outcome
  obtain ⟨resultOther, reachedOther⟩ := outcomeOther
  cases results with
  | ok holds => exact later _ _ holds reached reachedOther after
  | error errors => exact ⟨.error errors, after⟩

/-- A name that is known denotes the same register on both sides. -/
theorem Registers.results_resolve {name : String} (mentioned : named name) :
    ResultsCorrespond related (fun register other => register = other ∧ named register.name)
      (Registers.resolve name) (Registers.resolve name) := by
  cases found : Register.ofName? name with
  | none =>
      rw [Registers.resolve_of_none found]
      exact .error (.unknownRegister name)
  | some register =>
      rw [Registers.resolve_of_some found]
      exact .ok ⟨rfl, Register.eq_name_of_ofName? found ▸ mentioned⟩

theorem Registers.results_validate (congruence : Number.Congruence related) {value other : Float}
    (holds : related value other) :
    ResultsCorrespond related related (Registers.validate value) (Registers.validate other) := by
  rw [Registers.validate, Registers.validate, congruence.isNaN_eq holds]
  split
  · exact .error (.notANumber holds)
  · exact .ok holds

theorem Registers.Corresponds.read {first second : Registers}
    (registers : first.Corresponds related named second) {name : String} (mentioned : named name) :
    ResultsCorrespond related related (first.read name) (second.read name) := by
  apply (Registers.results_resolve mentioned).bind
  rintro register other ⟨rfl, known⟩
  exact .ok (registers register known)

/-- An update with related numbers relates the numbers of the register that it writes. -/
theorem Registers.corresponds_update (congruence : Number.Congruence related)
    {combine : Float → Float → Float}
    (keeps : ∀ {left right leftOther rightOther : Float}, related left leftOther →
      related right rightOther → related (combine left right) (combine leftOther rightOther))
    {name : String} (mentioned : named name) {value other : Float} (holds : related value other) :
    Change.Corresponds related (Registers.Corresponds related named) Eq
      (Registers.update combine name value) (Registers.update combine name other) := by
  apply (Change.corresponds_lift (Registers.results_resolve mentioned)).bind
  rintro register registerOther ⟨rfl, known⟩
  apply (Change.corresponds_lift (Registers.results_validate congruence holds)).bind
  intro incoming incomingOther incomings
  apply Change.corresponds_modify
  intro before beforeOther registers written mentioned
  rw [Registers.get_set, Registers.get_set]
  by_cases same : written = register
  · rw [if_pos same, if_pos same]
    exact keeps (registers register known) incomings
  · rw [if_neg same, if_neg same]
    exact registers written mentioned

theorem Registers.corresponds_write (congruence : Number.Congruence related) {name : String}
    (mentioned : named name) {value other : Float} (holds : related value other) :
    Change.Corresponds related (Registers.Corresponds related named) Eq
      (Registers.write name value) (Registers.write name other) :=
  Registers.corresponds_update congruence (fun _ incomings => incomings) mentioned holds

theorem Registers.corresponds_addValue (congruence : Number.Congruence related) {name : String}
    (mentioned : named name) {value other : Float} (holds : related value other) :
    Change.Corresponds related (Registers.Corresponds related named) Eq
      (Registers.addValue name value) (Registers.addValue name other) :=
  Registers.corresponds_update congruence congruence.add mentioned holds

theorem Registers.corresponds_subtractValue (congruence : Number.Congruence related)
    {name : String} (mentioned : named name) {value other : Float} (holds : related value other) :
    Change.Corresponds related (Registers.Corresponds related named) Eq
      (Registers.subtractValue name value) (Registers.subtractValue name other) :=
  Registers.corresponds_update congruence congruence.sub mentioned holds

/-- A register that is read first holds related numbers. -/
theorem Registers.corresponds_read_bind {source : String} (mentioned : named source)
    {next : Float → Change Registers Unit}
    (later : ∀ value other, related value other →
      Change.Corresponds related (Registers.Corresponds related named) Eq
        (next value) (next other)) :
    Change.Corresponds related (Registers.Corresponds related named) Eq
      (do let value ← (← getThe Registers).read source; next value)
      (do let value ← (← getThe Registers).read source; next value) := by
  apply Change.corresponds_getThe.bind
  intro registers registersOther correspond
  exact (Change.corresponds_lift (correspond.read mentioned)).bind later

theorem Processor.corresponds_onRegisters {first second : Change Registers Unit}
    (changes : Change.Corresponds related (Registers.Corresponds related named) Eq first second) :
    Change.Corresponds related (Processor.Corresponds related named) Eq
      (Processor.onRegisters first) (Processor.onRegisters second) := by
  intro before beforeOther start
  obtain ⟨results, after⟩ := changes before.registers beforeOther.registers start.registers
  exact ⟨results, after, start.flags, start.debug⟩

theorem Registers.Corresponds.compareRegisters (congruence : Number.Congruence related)
    {first second : Registers} (registers : first.Corresponds related named second)
    (comparison : Comparison) {left right : String} (knownLeft : named left)
    (knownRight : named right) :
    ResultsCorrespond related Eq (first.compareRegisters left comparison right)
      (second.compareRegisters left comparison right) := by
  apply (registers.read knownLeft).bind
  intro number numberOther numbers
  apply (registers.read knownRight).bind
  intro value other holds
  exact .ok (congruence.test_eq numbers holds comparison)

theorem Registers.Corresponds.compareRegisterValue (congruence : Number.Congruence related)
    {first second : Registers} (registers : first.Corresponds related named second)
    (comparison : Comparison) {name : String} (known : named name) {value other : Float}
    (holds : related value other) :
    ResultsCorrespond related Eq (first.compareRegisterValue name comparison value)
      (second.compareRegisterValue name comparison other) := by
  apply (registers.read known).bind
  intro number numberOther numbers
  apply (Registers.results_validate congruence holds).bind
  intro incoming incomingOther incomings
  exact .ok (congruence.test_eq numbers incomings comparison)

theorem Registers.results_compareValues (congruence : Number.Congruence related)
    (comparison : Comparison) {left right leftOther rightOther : Float}
    (lefts : related left leftOther) (rights : related right rightOther) :
    ResultsCorrespond related Eq (Registers.compareValues left comparison right)
      (Registers.compareValues leftOther comparison rightOther) := by
  apply (Registers.results_validate congruence lefts).bind
  intro number numberOther numbers
  apply (Registers.results_validate congruence rights).bind
  intro value other holds
  exact .ok (congruence.test_eq numbers holds comparison)

/-- Corresponding operands are compared with the same result. -/
theorem Processor.Corresponds.compare (congruence : Number.Congruence related)
    {first second : Processor} (processors : first.Corresponds related named second)
    (comparison : Comparison) {left right leftOther rightOther : Operand Float}
    (lefts : left.Corresponds related leftOther) (rights : right.Corresponds related rightOther)
    (mentioned : ∀ name ∈ left.names ++ right.names, named name) :
    ResultsCorrespond related Eq (first.compare comparison left right)
      (second.compare comparison leftOther rightOther) := by
  have registers := processors.registers
  cases lefts with
  | register name =>
      have known : named name := mentioned name List.mem_cons_self
      cases rights with
      | register source =>
          have knownSource : named source :=
            mentioned source (List.mem_cons_of_mem name List.mem_cons_self)
          exact registers.compareRegisters congruence comparison known knownSource
      | literal holds => exact registers.compareRegisterValue congruence comparison known holds
  | literal holds =>
      cases rights with
      | register name =>
          have known : named name := mentioned name List.mem_cons_self
          exact registers.compareRegisterValue congruence comparison.flipped known holds
      | literal holdsOther =>
          exact Registers.results_compareValues congruence comparison holds holdsOther

/-- Corresponding instructions change corresponding processors with corresponding results. -/
theorem Processor.corresponds_advance (congruence : Number.Congruence related)
    {first second : Instruction Float} (instructions : first.Corresponds related second)
    (mentioned : ∀ name ∈ first.names, named name) :
    Change.Corresponds related (Processor.Corresponds related named) Eq
      (Processor.advance first) (Processor.advance second) := by
  cases instructions with
  | load register holds =>
      have known : named register := mentioned register List.mem_cons_self
      exact Processor.corresponds_onRegisters (Registers.corresponds_write congruence known holds)
  | move source destination =>
      have knownSource : named source := mentioned source List.mem_cons_self
      have known : named destination :=
        mentioned destination (List.mem_cons_of_mem source List.mem_cons_self)
      exact Processor.corresponds_onRegisters (Registers.corresponds_read_bind knownSource
        fun _ _ holds => Registers.corresponds_write congruence known holds)
  | increment register =>
      have known : named register := mentioned register List.mem_cons_self
      exact Processor.corresponds_onRegisters
        (Registers.corresponds_addValue congruence known congruence.one)
  | decrement register =>
      have known : named register := mentioned register List.mem_cons_self
      exact Processor.corresponds_onRegisters
        (Registers.corresponds_subtractValue congruence known congruence.one)
  | add register operands =>
      have known : named register := mentioned register (List.mem_append_right _ List.mem_cons_self)
      cases operands with
      | register source =>
          have knownSource : named source := mentioned source List.mem_cons_self
          exact Processor.corresponds_onRegisters (Registers.corresponds_read_bind knownSource
            fun _ _ holds => Registers.corresponds_addValue congruence known holds)
      | literal holds =>
          exact Processor.corresponds_onRegisters
            (Registers.corresponds_addValue congruence known holds)
  | subtract register operands =>
      have known : named register := mentioned register (List.mem_append_right _ List.mem_cons_self)
      cases operands with
      | register source =>
          have knownSource : named source := mentioned source List.mem_cons_self
          exact Processor.corresponds_onRegisters (Registers.corresponds_read_bind knownSource
            fun _ _ holds => Registers.corresponds_subtractValue congruence known holds)
      | literal holds =>
          exact Processor.corresponds_onRegisters
            (Registers.corresponds_subtractValue congruence known holds)
  | compare comparison lefts rights =>
      apply Change.corresponds_getThe.bind
      intro processor processorOther processors
      apply (Change.corresponds_lift
        (processors.compare congruence comparison lefts rights mentioned)).bind
      rintro result resultOther rfl
      apply Change.corresponds_modify
      intro before beforeOther start
      exact ⟨start.registers, congrArg (Flags.set · comparison.flag result) start.flags,
        start.debug⟩
  | out emission => exact Change.corresponds_pure rfl

theorem Operand.Corresponds.plain_eq (congruence : Number.Congruence related)
    {operand other : Operand Float} (operands : operand.Corresponds related other) :
    operand.plain Number.plain = other.plain Number.plain := by
  cases operands with
  | register name => rfl
  | literal holds => exact congruence.plain_eq holds

/-- A sentence shows nothing of the numbers but their plain texts. -/
theorem Instruction.Corresponds.sentence?_eq (congruence : Number.Congruence related)
    {instruction other : Instruction Float} (instructions : instruction.Corresponds related other)
    (flags : Flags) :
    instruction.sentence? Number.plain flags = other.sentence? Number.plain flags := by
  cases instructions with
  | load register holds => simp only [Instruction.sentence?, congruence.plain_eq holds]
  | move | increment | decrement | out => rfl
  | add register operands | subtract register operands =>
      simp only [Instruction.sentence?, operands.plain_eq congruence]
  | compare comparison lefts rights =>
      simp only [Instruction.sentence?, lefts.plain_eq congruence, rights.plain_eq congruence]

theorem Processor.Corresponds.emit_eq (congruence : Number.Congruence related)
    {first second : Processor} (processors : first.Corresponds related named second)
    {emission : Emission}
    (mentioned : ∀ name ∈ (Instruction.out emission : Instruction Float).names, named name) :
    first.emit emission = second.emit emission := by
  cases emission with
  | register name =>
      simp only [Processor.emit]
      cases found : Register.ofName? name with
      | none => rfl
      | some register =>
          have known : named register.name :=
            Register.eq_name_of_ofName? found ▸ mentioned name List.mem_cons_self
          exact congrArg (Record.mk .log)
            (congruence.plain_eq (processors.registers register known))
  | flag name => simp only [Processor.emit, processors.flags]
  | text content => rfl

theorem Processor.Corresponds.report?_eq (congruence : Number.Congruence related)
    {first second : Processor} (processors : first.Corresponds related named second)
    {instruction other : Instruction Float} (instructions : instruction.Corresponds related other)
    (mentioned : ∀ name ∈ instruction.names, named name) :
    first.report? instruction = second.report? other := by
  have sentence := instructions.sentence?_eq congruence second.flags
  cases instructions with
  | out emission => exact congrArg some (processors.emit_eq congruence mentioned)
  | load | move | increment | decrement | add | subtract | compare =>
      simp only [Processor.report?, processors.debug, processors.flags, sentence]

theorem Processor.corresponds_execute (congruence : Number.Congruence related)
    {first second : Instruction Float} (instructions : first.Corresponds related second)
    (mentioned : ∀ name ∈ first.names, named name) :
    Change.Corresponds related (Processor.Corresponds related named) Eq
      (Processor.execute first) (Processor.execute second) := by
  apply (Processor.corresponds_advance congruence instructions mentioned).bind
  intro _ _ _
  apply Change.corresponds_getThe.bind
  intro processor other processors
  exact Change.corresponds_pure (processors.report?_eq congruence instructions mentioned)

theorem Processor.Corresponds.step (congruence : Number.Congruence related)
    {first second : Processor} (processors : first.Corresponds related named second)
    {step other : Step Float} (steps : step.Corresponds related other)
    (mentioned : ∀ name ∈ step.instruction.names, named name) :
    (first.step step).Corresponds related named (second.step other) := by
  obtain ⟨results, after⟩ :=
    Processor.corresponds_execute congruence steps.instruction mentioned first second processors
  rw [Processor.step, Processor.step]
  generalize (Processor.execute step.instruction).on first = outcome at results after ⊢
  generalize (Processor.execute other.instruction).on second = outcomeOther at results after ⊢
  obtain ⟨result, reached⟩ := outcome
  obtain ⟨resultOther, reachedOther⟩ := outcomeOther
  cases results with
  | ok same =>
      subst same
      exact ⟨after, rfl, .none⟩
  | error errors => exact ⟨after, rfl, .some ⟨steps, errors⟩⟩

/-- Runs in a row correspond if the first runs do and so does what follows them. -/
theorem Run.Corresponds.andThen {first second : Run}
    (runs : first.Corresponds related named second) {next nextOther : Processor → Run}
    (later : ∀ reached other : Processor, reached.Corresponds related named other →
      (next reached).Corresponds related named (nextOther other)) :
    (first.andThen next).Corresponds related named (second.andThen nextOther) := by
  have ends := runs.failure?
  cases failed : first.failure? with
  | some failure =>
      cases failedOther : second.failure? with
      | some other =>
          rw [Run.andThen_of_some failed, Run.andThen_of_some failedOther]
          exact runs
      | none =>
          rw [failed, failedOther] at ends
          cases ends
  | none =>
      cases failedOther : second.failure? with
      | some other =>
          rw [failed, failedOther] at ends
          cases ends
      | none =>
          have continued := later _ _ runs.processor
          constructor
          · simpa only [Run.andThen, failed, failedOther] using continued.processor
          · rw [Run.records_andThen_of_none failed, Run.records_andThen_of_none failedOther,
              runs.records, continued.records]
          · simpa only [Run.andThen, failed, failedOther] using continued.failure?

theorem Run.Corresponds.of_agrees {first second agreed agreedOther : Run}
    (runs : first.Corresponds related named second) (agrees : agreed.Agrees first)
    (agreesOther : agreedOther.Agrees second) : agreed.Corresponds related named agreedOther := by
  constructor
  · rw [agrees.processor, agreesOther.processor]
    exact runs.processor
  · rw [agrees.records, agreesOther.records]
    exact runs.records
  · rw [agrees.failure?, agreesOther.failure?]
    exact runs.failure?

variable {program other : Program Float}

theorem Processor.Corresponds.runSteps (congruence : Number.Congruence related)
    {first second : Processor} (processors : first.Corresponds related named second)
    (steps : List.Forall₂ (Step.Corresponds related) program other)
    (mentioned : ∀ step ∈ program, ∀ name ∈ step.instruction.names, named name) :
    (first.runSteps program).Corresponds related named (second.runSteps other) := by
  induction steps generalizing first second with
  | nil => exact ⟨processors, rfl, .none⟩
  | cons head tail ih =>
      rw [Processor.runSteps_cons, Processor.runSteps_cons]
      apply (processors.step congruence head (mentioned _ List.mem_cons_self)).andThen
      intro reached reachedOther correspond
      exact ih correspond fun step member => mentioned step (List.mem_cons_of_mem _ member)

/-- Corresponding programs take corresponding processors to corresponding ends. -/
theorem Processor.Corresponds.run (congruence : Number.Congruence related)
    {first second : Processor} (processors : first.Corresponds related named second)
    (steps : List.Forall₂ (Step.Corresponds related) program other)
    (mentioned : ∀ step ∈ program, ∀ name ∈ step.instruction.names, named name) :
    (first.run program).Corresponds related named (second.run other) :=
  (processors.runSteps congruence steps mentioned).of_agrees (first.run_agrees program)
    (second.run_agrees other)

/-- The first failures of corresponding programs are at the same position. -/
theorem Processor.Corresponds.firstFailure?_eq (congruence : Number.Congruence related)
    {first second : Processor} (processors : first.Corresponds related named second)
    (steps : List.Forall₂ (Step.Corresponds related) program other)
    (mentioned : ∀ step ∈ program, ∀ name ∈ step.instruction.names, named name) :
    first.firstFailure? program = second.firstFailure? other := by
  induction steps generalizing first second with
  | nil => rfl
  | @cons step stepOther rest restOther head tail ih =>
      obtain ⟨results, after⟩ := Processor.corresponds_execute congruence head.instruction
        (mentioned _ List.mem_cons_self) first second processors
      rw [Processor.firstFailure?_cons, Processor.firstFailure?_cons]
      generalize (Processor.execute step.instruction).on first = outcome at results after ⊢
      generalize (Processor.execute stepOther.instruction).on second = outcomeOther
        at results after ⊢
      obtain ⟨result, reached⟩ := outcome
      obtain ⟨resultOther, reachedOther⟩ := outcomeOther
      cases results with
      | ok same =>
          exact congrArg (Option.map Nat.succ)
            (ih after fun step member => mentioned step (List.mem_cons_of_mem _ member))
      | error errors => rfl

end RegisterMachine
