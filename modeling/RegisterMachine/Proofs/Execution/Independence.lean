/-
This file proves that independent instructions can be executed in either order.
Neither of them notices whether the other one has been executed before it.
-/

import RegisterMachine.Proofs.Execution.Cell

namespace RegisterMachine

variable {State Value Other : Type}

/-- Instructions are independent if neither writes a cell that the other one touches. -/
structure Instruction.Independent (first second : Instruction Value) : Prop where
  spares : ∀ cell ∈ first.writes, cell ∉ second.touches
  spared : ∀ cell ∈ second.writes, cell ∉ first.touches

instance (first second : Instruction Value) : Decidable (first.Independent second) :=
  decidable_of_iff ((∀ cell ∈ first.writes, cell ∉ second.touches) ∧
      ∀ cell ∈ second.writes, cell ∉ first.touches)
    ⟨fun apart => ⟨apart.1, apart.2⟩, fun independent => ⟨independent.spares, independent.spared⟩⟩

/-- Two changes in a row have two values, and the second change starts where the first one ends. -/
def Change.both (first : Change State Value) (second : Change State Other) :
    Change State (Value × Other) := do
  let value ← first
  let other ← second
  return (value, other)

/-- A confined change keeps the cells that it does not write.  Its result and what it leaves in the
cells that it touches depend on these alone. -/
structure Change.Confined (touches writes : List Cell) (change : Change Processor Value) :
    Prop where
  within : writes ⊆ touches
  keeps : ∀ cell ∉ writes, ∀ processor,
    (change.on processor).2.content cell = processor.content cell
  debug : ∀ processor, (change.on processor).2.debug = processor.debug
  determined : ∀ first second : Processor, first.AgreesOn touches second →
    (change.on first).1 = (change.on second).1 ∧
      (change.on first).2.AgreesOn touches (change.on second).2

theorem Change.on_both_eq_ok_iff {first : Change State Value} {second : Change State Other}
    {before after : State} {value : Value} {other : Other} :
    (first.both second).on before = (.ok (value, other), after) ↔
      (first.on before).1 = .ok value ∧ (second.on (first.on before).2).1 = .ok other ∧
        (second.on (first.on before).2).2 = after := by
  rw [Change.both, Change.on_bind]
  rcases first.on before with ⟨error | reached, between⟩
  · simp
  · simp only [Change.on_bind]
    rcases second.on between with ⟨error | reachedOther, ending⟩
    · simp
    · simp [and_assoc]

section Confined

variable {first : Change Processor Value} {second : Change Processor Other}
variable {touches writes touchesOther writesOther : List Cell}

/-- A change that spares the cells of another one does not influence it. -/
theorem Change.Confined.on_after (left : first.Confined touches writes)
    (right : second.Confined touchesOther writesOther)
    (spares : ∀ cell ∈ writes, cell ∉ touchesOther) (processor : Processor) :
    (second.on (first.on processor).2).1 = (second.on processor).1 ∧
      (second.on (first.on processor).2).2.AgreesOn touchesOther (second.on processor).2 := by
  apply right.determined
  refine ⟨fun cell touched => ?_, left.debug processor⟩
  exact left.keeps cell (fun written => spares cell written touched) processor

/-- Confined changes that spare each other lead to the same state in either order. -/
theorem Change.Confined.on_exchanged (left : first.Confined touches writes)
    (right : second.Confined touchesOther writesOther)
    (spares : ∀ cell ∈ writes, cell ∉ touchesOther)
    (spared : ∀ cell ∈ writesOther, cell ∉ touches) (processor : Processor) :
    (second.on (first.on processor).2).2 = (first.on (second.on processor).2).2 := by
  obtain ⟨-, agrees⟩ := left.on_after right spares processor
  obtain ⟨-, agreesOther⟩ := right.on_after left spared processor
  apply Processor.ext_content
  · intro cell
    -- What one change touches is decided by that change alone, and what neither touches is kept.
    by_cases touched : cell ∈ touches
    · have unwritten : cell ∉ writesOther := fun written => spared cell written touched
      rw [right.keeps cell unwritten, agreesOther.contents cell touched]
    · have unwritten : cell ∉ writes := fun written => touched (left.within written)
      rw [left.keeps cell unwritten]
      by_cases touchedOther : cell ∈ touchesOther
      · exact agrees.contents cell touchedOther
      · have unwrittenOther : cell ∉ writesOther :=
          fun written => touchedOther (right.within written)
        rw [right.keeps cell unwrittenOther, right.keeps cell unwrittenOther,
          left.keeps cell unwritten]
  · rw [right.debug, left.debug, left.debug, right.debug]

/-- Confined changes that spare each other succeed with the same values in either order. -/
theorem Change.Confined.on_both_exchanged (left : first.Confined touches writes)
    (right : second.Confined touchesOther writesOther)
    (spares : ∀ cell ∈ writes, cell ∉ touchesOther)
    (spared : ∀ cell ∈ writesOther, cell ∉ touches) {before after : Processor} {value : Value}
    {other : Other} :
    (first.both second).on before = (.ok (value, other), after) ↔
      (second.both first).on before = (.ok (other, value), after) := by
  rw [Change.on_both_eq_ok_iff, Change.on_both_eq_ok_iff, (left.on_after right spares before).1,
    (right.on_after left spared before).1, left.on_exchanged right spares spared]
  exact and_left_comm

end Confined

/-- An instruction is confined to the cells that it touches and writes. -/
theorem Processor.execute_confined (instruction : Instruction Float) :
    (Processor.execute instruction).Confined instruction.touches instruction.writes where
  within := List.subset_append_right _ _
  keeps _ unwritten processor := Processor.content_execute unwritten processor
  debug processor := Processor.debug_execute instruction processor
  determined _ _ agrees := agrees.execute

/-- Independent instructions commute.  One order succeeds exactly when the other one does, and then
both end with the same registers and flags, and each instruction hands out the same record. -/
theorem Processor.execute_commutes {first second : Instruction Float}
    (independent : first.Independent second) (before after : Processor)
    (record? other? : Option Record) :
    ((Processor.execute first).both (Processor.execute second)).on before =
        (.ok (record?, other?), after) ↔
      ((Processor.execute second).both (Processor.execute first)).on before =
        (.ok (other?, record?), after) :=
  (Processor.execute_confined first).on_both_exchanged (Processor.execute_confined second)
    independent.spares independent.spared

theorem Processor.execute_commutes_sample :
    let addition : Instruction Float := .add "b" (.register "a")
    let comparison : Instruction Float := .compare .lessThan (.literal 2) (.register "a")
    let before : Processor := ⟨(Registers.zero.set .a 3).set .b 4, {}, true⟩
    let exchanged := ((Processor.execute comparison).both (Processor.execute addition)).on before
    addition.Independent comparison ∧
      exchanged.1.toOption = some (some ⟨.info, "'2' is less than 'a'."⟩,
        some ⟨.info, "Added 'a' to register 'b'."⟩) ∧
      exchanged.2.registers.get .b = 7 ∧ exchanged.2.flags = { lt := true } := by
  intro addition comparison before exchanged
  have independent : addition.Independent comparison := by decide
  let direct := ((Processor.execute addition).both (Processor.execute comparison)).on before
  have records : direct.1.toOption = some (some ⟨.info, "Added 'a' to register 'b'."⟩,
      some ⟨.info, "'2' is less than 'a'."⟩) := by decide +kernel
  have number : direct.2.registers.get .b = 7 := by decide +kernel
  have flags : direct.2.flags = { lt := true } := by decide +kernel
  rcases executed : direct with ⟨error | both, after⟩
  · rw [executed] at records
    cases records
  · rw [executed] at records number flags
    cases records
    have same : exchanged = (.ok (_, _), after) :=
      (Processor.execute_commutes independent before after _ _).mp executed
    rw [same]
    exact ⟨independent, rfl, number, flags⟩

end RegisterMachine
