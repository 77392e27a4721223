/-
This file says when an instruction fails, and with which error.
Names are looked up before numbers are checked, and only a number from a register can be refused.
-/

import RegisterMachine.Proofs.Execution.Comparing
import RegisterMachine.Proofs.Execution.Prefix

namespace RegisterMachine

/-- A name can be looked up if it is one letter from a to n. -/
def Register.isName (name : String) : Bool :=
  match name.toList with
  | [letter] => 'a' ≤ letter && letter ≤ 'n'
  | _ => false

def Operand.names {Value : Type} : Operand Value → List String
  | .register name => [name]
  | .literal _ => []

/-- The names of an instruction stand in the order in which they are looked up. -/
def Instruction.names {Value : Type} : Instruction Value → List String
  | .load register _ | .increment register | .decrement register => [register]
  | .move source destination => [source, destination]
  | .add register operand | .subtract register operand => operand.names ++ [register]
  | .compare _ left right => left.names ++ right.names
  | .out (.register name) => [name]
  | .out (.flag _) | .out (.text _) => []

/-- The source of an instruction is the register whose number it takes into another one. -/
def Instruction.source? {Value : Type} : Instruction Value → Option String
  | .move source _ => some source
  | .add _ (.register source) | .subtract _ (.register source) => some source
  | _ => none

/-- A step fails with an error if executing it in the given state does. -/
def Processor.FailsWith (processor : Processor) (step : Step Float) (error : RegisterError) :
    Prop :=
  (processor.step step).failure? = some ⟨step, error⟩

/-- A run meets a step in the state in which the steps before it end, if they all succeed. -/
def Processor.Meets (processor : Processor) (program : Program Float) (step : Step Float)
    (before : Processor) : Prop :=
  ∃ earlier later, program = earlier ++ step :: later ∧
    (processor.runSteps earlier).failure? = none ∧
      (processor.runSteps earlier).processor = before

/-- The fault of a change is the error with which it fails in a state. -/
def Change.fault? {State Value : Type} (change : Change State Value) (state : State) :
    Option RegisterError :=
  match (change.on state).1 with
  | .ok _ => none
  | .error error => some error

/-- A number is refused if it is a NaN. -/
def Registers.refusal? (value : Float) : Option RegisterError :=
  if value.isNaN then some (.notANumber value) else none

/-- The first name that cannot be looked up is reported, and otherwise a NaN in the source. -/
def Processor.fault? (processor : Processor) (instruction : Instruction Float) :
    Option RegisterError :=
  match instruction.names.find? fun name => !Register.isName name with
  | some name => some (.unknownRegister name)
  | none =>
      (instruction.source?.bind Register.ofName?).bind fun register =>
        Registers.refusal? (processor.registers.get register)

/-- The letters of the registers leave no gap. -/
theorem Register.exists_letter_eq {letter : Char} (first : 'a' ≤ letter) (last : letter ≤ 'n') :
    ∃ register : Register, register.letter = letter := by
  change 97 ≤ letter.toNat at first
  change letter.toNat ≤ 110 at last
  obtain ⟨register, found⟩ := Register.exists_index ⟨letter.toNat - 97, by omega⟩
  have bound : 97 ≤ register.letter.toNat := by cases register <;> decide
  have same : register.letter.toNat - 97 = letter.toNat - 97 := congrArg Fin.val found
  exact ⟨register, Char.toNat_inj.mp (by omega)⟩

/-- Exactly the letters from a to n are names of registers. -/
theorem Register.isName_eq (name : String) :
    Register.isName name = (Register.ofName? name).isSome := by
  rw [Bool.eq_iff_iff, Option.isSome_iff_exists, Register.isName]
  constructor
  · intro named
    split at named
    · next letter single =>
        simp only [Bool.and_eq_true, decide_eq_true_eq] at named
        obtain ⟨register, rfl⟩ := Register.exists_letter_eq named.1 named.2
        exact ⟨register, Register.ofName?_eq_some_iff.mpr single⟩
    · cases named
  · rintro ⟨register, found⟩
    rw [Register.ofName?_eq_some_iff.mp found]
    cases register <;> decide

theorem Registers.refusal?_eq_some_iff {value refused : Float} :
    Registers.refusal? value = some (.notANumber refused) ↔ value = refused ∧ refused.isNaN := by
  rw [Registers.refusal?]
  split
  · next number =>
      constructor
      · rintro ⟨⟩
        exact ⟨rfl, number⟩
      · rintro ⟨rfl, -⟩
        rfl
  · next number =>
      constructor
      · rintro ⟨⟩
      · rintro ⟨rfl, refused⟩
        exact absurd refused number

theorem Instruction.source?_of_out {Value : Type} {instruction : Instruction Value}
    (out : instruction.opcode = .out) : instruction.source? = none := by
  cases instruction with
  | out emission => rfl
  | compare comparison left right => rfl
  | load | move | increment | decrement | add | subtract => cases out

theorem Registers.fault?_update (combine : Float → Float → Float) (name : String)
    (value : Float) (registers : Registers) :
    (Registers.update combine name value).fault? registers =
      if Register.isName name then Registers.refusal? value
      else some (.unknownRegister name) := by
  rw [Change.fault?, Register.isName_eq]
  cases found : Register.ofName? name with
  | none =>
      rw [Registers.on_update_of_none found]
      rfl
  | some register =>
      rw [Registers.update, Change.on_bind, Change.on_lift, Registers.resolve_of_some found,
        Registers.refusal?]
      simp only [Change.on_bind, Change.on_lift, Registers.validate]
      cases value.isNaN <;> rfl

theorem Processor.fault?_onRegisters (change : Change Registers Unit) (processor : Processor) :
    (Processor.onRegisters change).fault? processor = change.fault? processor.registers := rfl

/-- A register that is read first is also looked up first. -/
theorem Processor.fault?_read_bind (source : String) (next : Float → Change Registers Unit)
    (processor : Processor) :
    (Processor.onRegisters (do
        let value ← (← getThe Registers).read source
        next value)).fault? processor =
      match Register.ofName? source with
      | some register => (next (processor.registers.get register)).fault? processor.registers
      | none => some (.unknownRegister source) := by
  rw [Change.fault?, Processor.on_read_bind, Registers.value, Registers.read]
  cases found : Register.ofName? source with
  | none =>
      rw [Registers.resolve_of_none found]
      rfl
  | some register =>
      rw [Registers.resolve_of_some found]
      rfl

/-- An update from a register looks up both names before it checks the number. -/
theorem Processor.fault?_updateFrom (combine : Float → Float → Float) (source name : String)
    (processor : Processor) :
    (Processor.onRegisters (do
        let value ← (← getThe Registers).read source
        Registers.update combine name value)).fault? processor =
      match [source, name].find? fun name => !Register.isName name with
      | some unknown => some (.unknownRegister unknown)
      | none => (Register.ofName? source).bind fun register =>
          Registers.refusal? (processor.registers.get register) := by
  rw [Processor.fault?_read_bind]
  simp only [Registers.fault?_update, List.find?_cons, List.find?_nil, Register.isName_eq]
  cases Register.ofName? source with
  | none => rfl
  | some register => cases Register.ofName? name <;> rfl

/-- An update with a number that is no NaN fails only if its name cannot be looked up. -/
theorem Processor.fault?_updateWith {value : Float} (number : value.isNaN = false)
    (combine : Float → Float → Float) (name : String) (processor : Processor) :
    (Processor.onRegisters (Registers.update combine name value)).fault? processor =
      match [name].find? fun name => !Register.isName name with
      | some unknown => some (.unknownRegister unknown)
      | none => none := by
  rw [Processor.fault?_onRegisters, Registers.fault?_update, Registers.refusal?, number,
    List.find?_cons]
  cases Register.isName name <;> rfl

theorem Registers.read_eq (registers : Registers) (name : String) :
    registers.read name =
      match Register.ofName? name with
      | some register => .ok (registers.get register)
      | none => .error (.unknownRegister name) := by
  rw [Registers.read]
  cases found : Register.ofName? name with
  | none =>
      rw [Registers.resolve_of_none found]
      rfl
  | some register =>
      rw [Registers.resolve_of_some found]
      rfl

/-- An operand can be read exactly when the name in it, if there is one, can be looked up. -/
theorem Registers.value_of_find?_names (registers : Registers) (operand : Operand Float) :
    match operand.names.find? fun name => !Register.isName name with
    | some unknown => registers.value operand = .error (.unknownRegister unknown)
    | none => ∃ value, registers.value operand = .ok value := by
  cases operand with
  | literal value => exact ⟨value, rfl⟩
  | register name =>
      simp only [Operand.names, Registers.value, Registers.read_eq, List.find?_cons,
        List.find?_nil, Register.isName_eq]
      cases Register.ofName? name with
      | none => rfl
      | some register => exact ⟨registers.get register, rfl⟩

/-- A comparison reads its operands from left to right and refuses no register. -/
theorem Processor.fault?_compare (comparison : Comparison) {left right : Operand Float}
    (numbers : ∀ value ∈ left.literals ++ right.literals, value.isNaN = false)
    (processor : Processor) :
    (Processor.advance (.compare comparison left right)).fault? processor =
      match (left.names ++ right.names).find? fun name => !Register.isName name with
      | some unknown => some (.unknownRegister unknown)
      | none => none := by
  have first := processor.registers.value_of_find?_names left
  have second := processor.registers.value_of_find?_names right
  rw [Change.fault?, Processor.on_advance_compare,
    Processor.compare_of_numbers processor comparison numbers, List.find?_append]
  cases foundLeft : left.names.find? fun name => !Register.isName name with
  | some unknown =>
      rw [foundLeft] at first
      rw [first]
      rfl
  | none =>
      rw [foundLeft] at first
      obtain ⟨value, read⟩ := first
      cases foundRight : right.names.find? fun name => !Register.isName name with
      | some unknown =>
          rw [foundRight] at second
          rw [read, second]
          rfl
      | none =>
          rw [foundRight] at second
          obtain ⟨other, readOther⟩ := second
          rw [read, readOther]
          rfl

theorem Number.isNaN_one : (1 : Float).isNaN = false := by
  decide +kernel

/-- The fault of an instruction that hands nothing out is found without executing it. -/
theorem Processor.fault?_advance {instruction : Instruction Float}
    (internal : instruction.opcode ≠ .out)
    (numbers : ∀ value ∈ instruction.literals, value.isNaN = false) (processor : Processor) :
    (Processor.advance instruction).fault? processor = processor.fault? instruction := by
  cases instruction with
  | out emission => exact absurd rfl internal
  | load register value =>
      have number := numbers value List.mem_cons_self
      exact Processor.fault?_updateWith number (fun _ incoming => incoming) register processor
  | move source destination =>
      exact Processor.fault?_updateFrom (fun _ incoming => incoming) source destination processor
  | increment register =>
      exact Processor.fault?_updateWith Number.isNaN_one (· + ·) register processor
  | decrement register =>
      exact Processor.fault?_updateWith Number.isNaN_one (· - ·) register processor
  | add register operand =>
      cases operand with
      | register source => exact Processor.fault?_updateFrom (· + ·) source register processor
      | literal value =>
          have number := numbers value List.mem_cons_self
          exact Processor.fault?_updateWith number (· + ·) register processor
  | subtract register operand =>
      cases operand with
      | register source => exact Processor.fault?_updateFrom (· - ·) source register processor
      | literal value =>
          have number := numbers value List.mem_cons_self
          exact Processor.fault?_updateWith number (· - ·) register processor
  | compare comparison left right => exact Processor.fault?_compare comparison numbers processor

theorem Processor.failure?_step (processor : Processor) (step : Step Float) :
    (processor.step step).failure? =
      ((Processor.advance step.instruction).fault? processor).map (Failure.mk step) := by
  rw [Processor.step, Processor.on_execute, Change.fault?]
  generalize (Processor.advance step.instruction).on processor = outcome
  obtain ⟨error | value, after⟩ := outcome <;> rfl

theorem Processor.failsWith_iff (processor : Processor) (step : Step Float)
    (error : RegisterError) : processor.FailsWith step error ↔
      (Processor.advance step.instruction).fault? processor = some error := by
  rw [Processor.FailsWith, Processor.failure?_step, Option.map_eq_some_iff]
  constructor
  · rintro ⟨other, found, same⟩
    cases same
    exact found
  · intro found
    exact ⟨error, found, rfl⟩

theorem Processor.not_failsWith_of_out {step : Step Float} (out : step.instruction.opcode = .out)
    (processor : Processor) (error : RegisterError) : ¬processor.FailsWith step error := by
  rw [Processor.failsWith_iff]
  generalize step.instruction = instruction at out
  cases instruction with
  | out emission => exact nofun
  | compare comparison left right => cases comparison <;> cases out
  | load | move | increment | decrement | add | subtract => cases out

theorem Processor.failsWith_iff_fault? {step : Step Float}
    (internal : step.instruction.opcode ≠ .out)
    (numbers : ∀ value ∈ step.instruction.literals, value.isNaN = false) (processor : Processor)
    (error : RegisterError) : processor.FailsWith step error ↔
      processor.fault? step.instruction = some error := by
  rw [Processor.failsWith_iff, Processor.fault?_advance internal numbers]

/-- The reported name is the first one in the order of the names that cannot be looked up. -/
theorem Processor.failsWith_unknownRegister_iff {step : Step Float}
    (numbers : ∀ value ∈ step.instruction.literals, value.isNaN = false) (processor : Processor)
    (name : String) : processor.FailsWith step (.unknownRegister name) ↔
      step.instruction.opcode ≠ .out ∧
        (step.instruction.names.find? fun name => !Register.isName name) = some name := by
  by_cases out : step.instruction.opcode = .out
  · simp [out, Processor.not_failsWith_of_out out]
  · rw [Processor.failsWith_iff_fault? out numbers, Processor.fault?]
    cases step.instruction.names.find? fun name => !Register.isName name with
    | some unknown => simp [out]
    | none => simp [Option.bind_eq_some_iff, Registers.refusal?]

/-- Only a NaN that is taken from one register into another one is refused. -/
theorem Processor.failsWith_notANumber_iff {step : Step Float}
    (numbers : ∀ value ∈ step.instruction.literals, value.isNaN = false) (processor : Processor)
    (value : Float) : processor.FailsWith step (.notANumber value) ↔
      (∀ name ∈ step.instruction.names, Register.isName name) ∧
        ∃ source register, step.instruction.source? = some source ∧
          Register.ofName? source = some register ∧ processor.registers.get register = value ∧
            value.isNaN := by
  by_cases out : step.instruction.opcode = .out
  · simp [Processor.not_failsWith_of_out out, Instruction.source?_of_out out]
  · rw [Processor.failsWith_iff_fault? out numbers, Processor.fault?]
    cases found : step.instruction.names.find? fun name => !Register.isName name with
    | some unknown =>
        have among := List.mem_of_find?_eq_some found
        have unnamed := List.find?_some found
        simp only [Option.some.injEq, reduceCtorEq, false_iff, not_and]
        intro named
        simp [named unknown among] at unnamed
    | none =>
        have named : ∀ name ∈ step.instruction.names, Register.isName name := by
          simpa using found
        simp only [Option.bind_eq_some_iff, Registers.refusal?_eq_some_iff]
        constructor
        · rintro ⟨register, ⟨source, taken, known⟩, rfl, refused⟩
          exact ⟨named, source, register, taken, known, rfl, refused⟩
        · rintro ⟨-, source, register, taken, known, rfl, refused⟩
          exact ⟨register, ⟨source, taken, known⟩, rfl, refused⟩

example :
    let before : Processor := ⟨Registers.zero.set .b (0 / 0), {}, false⟩
    (before.step ⟨1, .move "b" "c"⟩).failure?.map (fun failure => failure.error.message) =
      some "operand `NaN` is not a number" := by
  decide +kernel

theorem Processor.step_of_failure?_step {processor : Processor} {step : Step Float}
    {failure : Failure} (failed : (processor.step step).failure? = some failure) :
    failure.step = step := by
  rw [Processor.failure?_step, Option.map_eq_some_iff] at failed
  obtain ⟨error, -, rfl⟩ := failed
  rfl

theorem Processor.meets_first (processor : Processor) (step : Step Float)
    (rest : Program Float) : processor.Meets (step :: rest) step processor :=
  ⟨[], rest, rfl, rfl, rfl⟩

/-- What the rest of a program meets after a first step that succeeds is met by the program. -/
theorem Processor.Meets.cons {processor before : Processor} {step met : Step Float}
    {rest : Program Float} (succeeded : (processor.step step).failure? = none)
    (meets : (processor.step step).processor.Meets rest met before) :
    processor.Meets (step :: rest) met before := by
  obtain ⟨earlier, later, rfl, passed, rfl⟩ := meets
  refine ⟨step :: earlier, later, rfl, ?_, ?_⟩
  · simp only [Processor.runSteps_cons, Run.andThen, succeeded, passed]
  · simp only [Processor.runSteps_cons, Run.andThen, succeeded]

/-- A run of steps fails exactly when it meets a step that fails. -/
theorem Processor.failure?_runSteps_iff (processor : Processor) (program : Program Float)
    (failure : Failure) : (processor.runSteps program).failure? = some failure ↔
      ∃ before, processor.Meets program failure.step before ∧
        before.FailsWith failure.step failure.error := by
  constructor
  · intro failed
    induction program generalizing processor with
    | nil => cases failed
    | cons step rest ih =>
        rw [Processor.runSteps_cons] at failed
        -- A first step that fails is the one that is met, and one that succeeds comes before it.
        cases first : (processor.step step).failure? with
        | some other =>
            rw [Run.andThen_of_some first, first] at failed
            cases failed
            have same := Processor.step_of_failure?_step first
            subst same
            exact ⟨processor, processor.meets_first _ rest, first⟩
        | none =>
            simp only [Run.andThen, first] at failed
            obtain ⟨before, meets, fails⟩ := ih _ failed
            exact ⟨before, meets.cons first, fails⟩
  · rintro ⟨before, ⟨earlier, later, rfl, succeeded, rfl⟩, fails⟩
    rw [Processor.FailsWith] at fails
    rw [Processor.runSteps_append]
    simp only [Processor.runSteps_cons, Run.andThen, succeeded, fails]

end RegisterMachine
