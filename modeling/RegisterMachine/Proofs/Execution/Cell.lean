/-
This file says which registers and flags an instruction reads and which ones it writes.
It keeps all that it does not write, and what it does depends on nothing else.
-/

import RegisterMachine.Proofs.Execution.Footprint
import RegisterMachine.Proofs.Execution.LastWriter

namespace RegisterMachine

/-- A cell of the state is a register or a flag. -/
inductive Cell where
  | register (register : Register)
  | flag (flag : Flag)
  deriving DecidableEq

/-- A register holds a number, and a flag holds a truth value. -/
def Processor.content (processor : Processor) : Cell → Float ⊕ Bool
  | .register register => .inl (processor.registers.get register)
  | .flag flag => .inr (processor.flags.get flag)

/-- A name that denotes no register stands for no cell. -/
def Cell.named (names : List String) : List Cell :=
  (names.filterMap Register.ofName?).map .register

/-- An instruction writes its destination, or the flag of its comparison. -/
def Instruction.writes {Value : Type} (instruction : Instruction Value) : List Cell :=
  Cell.named instruction.destination?.toList ++ instruction.flag?.toList.map .flag

/-- An instruction that replaces a number does not read it, and one that changes a number does. -/
def Instruction.reads {Value : Type} : Instruction Value → List Cell
  | .load _ _ => []
  | .move source _ => Cell.named [source]
  | .increment register | .decrement register => Cell.named [register]
  | .add register operand | .subtract register operand => Cell.named (operand.names ++ [register])
  | .compare _ left right => Cell.named (left.names ++ right.names)
  | .out (.register name) => Cell.named [name]
  | .out (.flag name) => (Flag.ofName? name).toList.map .flag
  | .out (.text _) => []

/-- An instruction touches the cells that it reads and those that it writes. -/
def Instruction.touches {Value : Type} (instruction : Instruction Value) : List Cell :=
  instruction.reads ++ instruction.writes

/-- Two processors agree on some cells if each of these has the same content in both. -/
structure Processor.AgreesOn (cells : List Cell) (first second : Processor) : Prop where
  contents : ∀ cell ∈ cells, first.content cell = second.content cell
  debug : first.debug = second.debug

variable {first second : Processor} {instruction : Instruction Float}

/-- A processor is determined by its cells and its debug setting. -/
theorem Processor.ext_content (contents : ∀ cell, first.content cell = second.content cell)
    (debug : first.debug = second.debug) : first = second := by
  have registers : first.registers = second.registers :=
    Registers.ext_get fun register => Sum.inl.inj (contents (.register register))
  have flags : first.flags = second.flags :=
    Flags.ext_get fun flag => Sum.inr.inj (contents (.flag flag))
  cases first
  cases second
  rw [Processor.mk.injEq]
  exact ⟨registers, flags, debug⟩

theorem Cell.register_mem_named {names : List String} {register : Register} :
    Cell.register register ∈ Cell.named names ↔ register.name ∈ names := by
  simp only [Cell.named, List.mem_map, List.mem_filterMap, Cell.register.injEq, exists_eq_right]
  constructor
  · rintro ⟨name, member, found⟩
    exact Register.eq_name_of_ofName? found ▸ member
  · intro member
    exact ⟨register.name, member, register.ofName?_name⟩

/-- The names of an instruction are those of the registers that it touches. -/
theorem Instruction.register_mem_touches {Value : Type} {instruction : Instruction Value}
    {register : Register} :
    Cell.register register ∈ instruction.touches ↔ register.name ∈ instruction.names := by
  cases instruction with
  | out emission =>
      cases emission <;>
        simp [Instruction.touches, Instruction.reads, Instruction.writes, Instruction.names,
          Instruction.destination?, Instruction.flag?, Cell.register_mem_named]
  | load | move | increment | decrement | add | subtract | compare =>
      simp [Instruction.touches, Instruction.reads, Instruction.writes, Instruction.names,
        Instruction.destination?, Instruction.flag?, Cell.register_mem_named]

/-- A cell that an instruction does not write keeps its content. -/
theorem Processor.content_execute {cell : Cell} (unwritten : cell ∉ instruction.writes)
    (processor : Processor) :
    ((Processor.execute instruction).on processor).2.content cell = processor.content cell := by
  rcases executed : (Processor.execute instruction).on processor with ⟨error | record?, after⟩
  · have kept := Processor.execute_atomic instruction processor error (by rw [executed])
    rw [executed] at kept
    exact congrArg (Processor.content · cell) kept
  · cases Processor.effect_of_advance (Processor.on_advance_of_execute executed).1 with
    | @number _ written value destination =>
        cases cell with
        | flag flag => rfl
        | register register =>
            have different : register ≠ written := by
              rintro rfl
              apply unwritten
              simp [Instruction.writes, destination, Cell.register_mem_named]
            exact congrArg Sum.inl (Registers.get_set_of_ne processor.registers different value)
    | @result _ written value destination =>
        cases cell with
        | register register => rfl
        | flag flag =>
            have different : flag ≠ written := by
              rintro rfl
              apply unwritten
              simp [Instruction.writes, destination]
            refine congrArg Sum.inr ?_
            rw [Flags.get_set, if_neg different]
    | nothing => rfl

/-- Processors with the same registers leave the same in a flag, whether they write it or keep it. -/
theorem Processor.get_flags_on_advance (same : first.registers = second.registers)
    (instruction : Instruction Float) {flag : Flag}
    (agrees : first.flags.get flag = second.flags.get flag) :
    ((Processor.advance instruction).on first).2.flags.get flag =
      ((Processor.advance instruction).on second).2.flags.get flag := by
  cases instruction with
  | compare comparison left right =>
      rw [Processor.on_advance_compare, Processor.on_advance_compare, Processor.compare_eq,
        Processor.compare_eq, same]
      cases second.registers.outcome comparison left right with
      | error error => exact agrees
      | ok result => simp only [Flags.get_set, agrees]
  | add register operand | subtract register operand => cases operand <;> exact agrees
  | load | move | increment | decrement | out => exact agrees

/-- What an instruction does depends only on the cells that it touches. -/
theorem Processor.AgreesOn.advance (agrees : first.AgreesOn instruction.touches second) :
    ((Processor.advance instruction).on first).1 = ((Processor.advance instruction).on second).1 ∧
      ((Processor.advance instruction).on first).2.AgreesOn instruction.touches
        ((Processor.advance instruction).on second).2 := by
  -- The processor in between has the registers of the second one and the flags of the first one.
  let between : Processor := { second with flags := first.flags }
  have processors : first.Corresponds Eq (· ∈ instruction.names) between := by
    refine ⟨fun register named => ?_, rfl, agrees.debug⟩
    exact Sum.inl.inj (agrees.contents _ (Instruction.register_mem_touches.mpr named))
  obtain ⟨results, after⟩ := Processor.corresponds_advance Number.congruence_eq
    (Instruction.corresponds_eq_iff.mpr rfl) (fun _ named => named) first between processors
  have same : between.registers = second.registers := rfl
  obtain ⟨resultsBetween, registers⟩ := Processor.on_advance_of_registers same instruction
  refine ⟨results.eq.trans resultsBetween, ?_, ?_⟩
  · rintro (register | flag) touched
    · have named := Instruction.register_mem_touches.mp touched
      have kept := congrArg (Registers.get · register) registers
      exact congrArg Sum.inl ((after.registers register named).trans kept)
    · have flags := Processor.get_flags_on_advance same instruction
        (Sum.inr.inj (agrees.contents (.flag flag) touched))
      exact congrArg Sum.inr ((congrArg (Flags.get · flag) after.flags).trans flags)
  · rw [Processor.debug_of_on_advance, Processor.debug_of_on_advance, agrees.debug]

theorem Processor.AgreesOn.emit_eq {emission : Emission}
    (agrees : first.AgreesOn (Instruction.out emission : Instruction Float).touches second) :
    first.emit emission = second.emit emission := by
  cases emission with
  | register name =>
      cases found : Register.ofName? name with
      | none => simp only [Processor.emit, found]
      | some register =>
          obtain rfl := Register.eq_name_of_ofName? found
          have shown := Sum.inl.inj (agrees.contents (.register register)
            (Instruction.register_mem_touches.mpr List.mem_cons_self))
          simp only [Processor.emit, found, shown]
  | flag name =>
      cases found : Flag.ofName? name with
      | none => simp only [Processor.emit, found]
      | some flag =>
          have touched : Cell.flag flag ∈
              (Instruction.out (.flag name) : Instruction Float).touches := by
            simp [Instruction.touches, Instruction.reads, found]
          have shown := Sum.inr.inj (agrees.contents (.flag flag) touched)
          simp only [Processor.emit, found, shown]
  | text content => rfl

/-- A report shows nothing of the state but the cells that its instruction touches. -/
theorem Processor.AgreesOn.report?_eq (agrees : first.AgreesOn instruction.touches second) :
    first.report? instruction = second.report? instruction := by
  cases instruction with
  | out emission => exact congrArg some agrees.emit_eq
  | compare comparison left right =>
      have touched : Cell.flag comparison.flag ∈
          (Instruction.compare comparison left right).touches := by
        simp [Instruction.touches, Instruction.writes, Instruction.flag?]
      have shown := Sum.inr.inj (agrees.contents (.flag comparison.flag) touched)
      simp only [Processor.report?, Instruction.sentence?, agrees.debug, shown]
  | load | move | increment | decrement | add | subtract =>
      simp only [Processor.report?, Instruction.sentence?, agrees.debug]

/-- Processors that agree on what an instruction touches execute it with the same result. -/
theorem Processor.AgreesOn.execute (agrees : first.AgreesOn instruction.touches second) :
    ((Processor.execute instruction).on first).1 = ((Processor.execute instruction).on second).1 ∧
      ((Processor.execute instruction).on first).2.AgreesOn instruction.touches
        ((Processor.execute instruction).on second).2 := by
  obtain ⟨results, after⟩ := agrees.advance
  rw [Processor.on_execute, Processor.on_execute]
  generalize (Processor.advance instruction).on first = outcome at results after ⊢
  generalize (Processor.advance instruction).on second = outcomeOther at results after ⊢
  obtain ⟨result, reached⟩ := outcome
  obtain ⟨resultOther, reachedOther⟩ := outcomeOther
  change result = resultOther at results
  subst results
  cases result with
  | error error => exact ⟨rfl, after⟩
  | ok value => exact ⟨congrArg Except.ok after.report?_eq, after⟩

end RegisterMachine
