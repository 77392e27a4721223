/-
This file proves that the processor computes what the exact processor computes.
It holds as long as the exact processor stays within the limit, and covers failures and records.
-/

import RegisterMachine.Machine
import RegisterMachine.Proofs.Exact.Processor
import RegisterMachine.Proofs.Execution.Comparing
import RegisterMachine.Proofs.Execution.Prefix
import RegisterMachine.Proofs.Number.Spelled

namespace RegisterMachine
open Number

/-- A processor refines an exact one if its registers denote the integers of the exact one. -/
structure Processor.Refines (processor : Processor) (exact : ExactProcessor) : Prop where
  registers : ∀ register, Denotes (processor.registers.get register) (exact.registers register)
  flags : processor.flags = exact.flags
  debug : processor.debug = exact.debug

/-- Two results match if they are related or fail with the same error. -/
inductive Matches {Value Other : Type} (related : Value → Other → Prop) :
    Except RegisterError Value → Except RegisterError Other → Prop where
  | ok {value : Value} {other : Other} (holds : related value other) :
      Matches related (.ok value) (.ok other)
  | error (error : RegisterError) : Matches related (.error error) (.error error)

/-- A test of two numbers is the same test of the integers that they denote. -/
theorem Number.Denotes.test_eq {left right : Float} {first second : Int}
    (denotesLeft : Denotes left first) (denotesRight : Denotes right second)
    (comparison : Comparison) :
    comparison.test left right = comparison.holds first second := by
  cases comparison with
  | greaterThan => exact decide_eq_decide.mpr (denotesRight.lt_iff denotesLeft)
  | lessThan => exact decide_eq_decide.mpr (denotesLeft.lt_iff denotesRight)
  | equals => exact denotesLeft.beq_eq denotesRight

variable {processor : Processor} {exact : ExactProcessor}

/-- The number of an operand denotes its integer, and an unknown name has neither. -/
theorem Processor.Refines.value (refines : processor.Refines exact) {operand : Operand Literal}
    (small : ∀ literal ∈ operand.literals, literal.toInt.natAbs ≤ limit) :
    Matches Denotes (processor.registers.value (operand.map Literal.toFloat))
      (exact.value operand) := by
  cases operand with
  | register name =>
      cases found : Register.ofName? name with
      | none =>
          have unknown := Registers.resolve_of_none found
          simp only [Operand.map, Registers.value, Registers.read, ExactProcessor.value, unknown]
          exact .error _
      | some register =>
          have known := Registers.resolve_of_some found
          simp only [Operand.map, Registers.value, Registers.read, ExactProcessor.value, known]
          exact .ok (refines.registers register)
  | literal literal =>
      exact .ok (Literal.denotes_toFloat (small literal List.mem_cons_self))

/-- The outcome of a change simulates an exact result. -/
def Processor.Simulates (outcome : Except RegisterError Unit × Processor) :
    Except RegisterError ExactProcessor → Prop
  | .ok after => outcome.1 = .ok () ∧ outcome.2.Refines after
  | .error error => outcome.1 = .error error

/-- An operation on numbers mirrors one on integers if it is exact within the limit. -/
def Number.Mirrors (combine : Float → Float → Float) (exactCombine : Int → Int → Int) : Prop :=
  ∀ {current incoming : Float} {before integer : Int}, Denotes current before →
    Denotes incoming integer → (exactCombine before integer).natAbs ≤ limit →
      Denotes (combine current incoming) (exactCombine before integer)

/-- An update is simulated if its operation is mirrored and the exact result is within the limit. -/
theorem Processor.Refines.update (refines : processor.Refines exact)
    {combine : Float → Float → Float} {exactCombine : Int → Int → Int}
    (mirrors : Mirrors combine exactCombine) {incoming : Float} {integer : Int}
    (denotes : Denotes incoming integer) (name : String)
    (within : ∀ after, exact.update exactCombine name integer = .ok after → after.Within) :
    Processor.Simulates
      ((Processor.onRegisters (Registers.update combine name incoming)).on processor)
      (exact.update exactCombine name integer) := by
  cases found : Register.ofName? name with
  | none =>
      rw [ExactProcessor.update, Registers.resolve_of_none found, Processor.on_onRegisters,
        Registers.on_update_of_none found]
      rfl
  | some register =>
      have reached : exact.update exactCombine name integer =
          .ok (exact.set register (exactCombine (exact.registers register) integer)) := by
        rw [ExactProcessor.update, Registers.resolve_of_some found]
        rfl
      have small := within _ reached register
      rw [ExactProcessor.registers_set, if_pos rfl] at small
      rw [reached, Processor.on_onRegisters, Registers.on_update found denotes.isNaN]
      refine ⟨rfl, ?_, refines.flags, refines.debug⟩
      intro other
      rw [Registers.get_set, ExactProcessor.registers_set]
      by_cases same : other = register
      · rw [if_pos same, if_pos same]
        exact mirrors (refines.registers register) denotes small
      · rw [if_neg same, if_neg same]
        exact refines.registers other

/-- The operand of an update fails or has a number that denotes its integer. -/
theorem Processor.Refines.updateFrom (refines : processor.Refines exact)
    {combine : Float → Float → Float} {exactCombine : Int → Int → Int}
    (mirrors : Mirrors combine exactCombine) {operand : Operand Literal}
    (small : ∀ literal ∈ operand.literals, literal.toInt.natAbs ≤ limit) (name : String)
    (within : ∀ after, exact.updateFrom exactCombine name operand = .ok after → after.Within) :
    Processor.Simulates
      (match processor.registers.value (operand.map Literal.toFloat) with
        | .ok value => (Processor.onRegisters (Registers.update combine name value)).on processor
        | .error error => (.error error, processor))
      (exact.updateFrom exactCombine name operand) := by
  have operands := refines.value small
  rw [ExactProcessor.updateFrom] at within ⊢
  generalize processor.registers.value (operand.map Literal.toFloat) = number at operands ⊢
  generalize exact.value operand = integer at operands within ⊢
  cases operands with
  | error error => rfl
  | ok denotes => exact refines.update mirrors denotes name within

/-- Comparing numbers writes the flag that comparing their integers writes. -/
theorem Processor.Refines.compare (refines : processor.Refines exact)
    {left right : Operand Literal}
    (small : ∀ literal ∈ left.literals ++ right.literals, literal.toInt.natAbs ≤ limit)
    (comparison : Comparison) :
    Processor.Simulates
      ((Processor.advance ((Instruction.compare comparison left right).map
        Literal.toFloat)).on processor)
      (exact.compare comparison left right) := by
  have first := refines.value fun literal member => small literal (List.mem_append_left _ member)
  have second := refines.value fun literal member => small literal (List.mem_append_right _ member)
  have numbers : ∀ value ∈ ((Instruction.compare comparison left right).map
      Literal.toFloat).literals, value.isNaN = false := by
    intro value member
    rw [Instruction.literals_map] at member
    obtain ⟨literal, inside, rfl⟩ := List.mem_map.mp member
    exact (Literal.denotes_toFloat (small literal inside)).isNaN
  rw [Instruction.map, Processor.on_advance_compare,
    Processor.compare_of_numbers processor comparison numbers, ExactProcessor.compare]
  generalize processor.registers.value (left.map Literal.toFloat) = leftNumber at first ⊢
  generalize processor.registers.value (right.map Literal.toFloat) = rightNumber at second ⊢
  generalize exact.value left = leftInteger at first ⊢
  generalize exact.value right = rightInteger at second ⊢
  cases first with
  | error error => rfl
  | ok denotesLeft =>
      cases second with
      | error error => rfl
      | ok denotesRight =>
          have test := denotesLeft.test_eq denotesRight comparison
          have flags := congrArg₂ (Flags.set · comparison.flag ·) refines.flags test
          exact ⟨rfl, refines.registers, flags, refines.debug⟩

theorem Number.mirrors_write : Mirrors (fun _ incoming => incoming) fun _ incoming => incoming :=
  fun _ denotes _ => denotes

theorem Number.mirrors_add :
    Mirrors (fun current incoming => current + incoming) (· + ·) :=
  fun left right within => left.add right within

theorem Number.mirrors_subtract :
    Mirrors (fun current incoming => current - incoming) (· - ·) :=
  fun left right within => left.sub right within

/-- One instruction reaches a state that refines the exact one, or fails with the same error. -/
theorem Processor.Refines.advance (refines : processor.Refines exact)
    {instruction : Instruction Literal}
    (small : ∀ literal ∈ instruction.literals, literal.toInt.natAbs ≤ limit)
    (within : ∀ after, exact.advance instruction = .ok after → after.Within) :
    Processor.Simulates
      ((Processor.advance (instruction.map Literal.toFloat)).on processor)
      (exact.advance instruction) := by
  have one : Denotes 1 1 := denotes_ofNat (by decide)
  cases instruction with
  | load register literal =>
      have denotes := Literal.denotes_toFloat (small literal List.mem_cons_self)
      exact refines.update mirrors_write denotes register within
  | move source destination =>
      have noLiterals : ∀ literal ∈ (Operand.register source : Operand Literal).literals,
          literal.toInt.natAbs ≤ limit := by
        intro literal member
        cases member
      rw [Instruction.map, Processor.on_advance_move]
      exact refines.updateFrom mirrors_write noLiterals destination within
  | increment register => exact refines.update mirrors_add one register within
  | decrement register => exact refines.update mirrors_subtract one register within
  | add register operand =>
      rw [Instruction.map, Processor.on_advance_add]
      exact refines.updateFrom mirrors_add small register within
  | subtract register operand =>
      rw [Instruction.map, Processor.on_advance_subtract]
      exact refines.updateFrom mirrors_subtract small register within
  | compare comparison left right => exact refines.compare small comparison
  | out emission => exact ⟨rfl, refines⟩

end RegisterMachine
