/-
This file finds out when the registers come to hold a NaN.
The operations refuse a NaN that they are given but store what an addition or a subtraction makes,
so a register holds a NaN as soon as two infinities cancel in it.
-/

import RegisterMachine.Proofs.Execution.Fault
import RegisterMachine.Proofs.Number.Alike
import RegisterMachine.Proofs.Number.Cancellation

namespace RegisterMachine
open Number

/-- No register holds a NaN. -/
def Registers.HoldNumbers (registers : Registers) : Prop :=
  ∀ register, (registers.get register).isNaN = false

/-- A failing operation leaves registers behind too, and the next one starts from them. -/
def Registers.after (registers : Registers) (operations : List Registers.Operation) : Registers :=
  operations.foldl (fun current operation => ((Registers.apply operation).on current).2) registers

/-- An operation cancels if the number in its register and the incoming one are infinities
that have no sum or no difference. -/
def Registers.Cancels (registers : Registers) : Registers.Operation → Prop
  | .addValue name value => ∃ register, Register.ofName? name = some register ∧
      Opposite (registers.get register) value
  | .addRegister name source => ∃ register other, Register.ofName? name = some register ∧
      Register.ofName? source = some other ∧
      Opposite (registers.get register) (registers.get other)
  | .subtractValue name value => ∃ register, Register.ofName? name = some register ∧
      SameInfinity (registers.get register) value
  | .subtractRegister name source => ∃ register other, Register.ofName? name = some register ∧
      Register.ofName? source = some other ∧
      SameInfinity (registers.get register) (registers.get other)
  | .write _ _ | .increment _ | .decrement _ | .move _ _ | .reset => False

/-- Sound registers can be moved and compared as if there were no NaN. -/
structure Registers.Sound (registers : Registers) : Prop where
  numbers : registers.HoldNumbers
  moves : ∀ source destination : Register,
    ((Registers.move source.name destination.name).on registers).1 = .ok ()
  same : registers.sameNumbers registers = true

theorem Registers.holdNumbers_zero : Registers.zero.HoldNumbers := by
  intro register
  rw [Registers.get_zero]
  decide +kernel

theorem Registers.holdNumbers_set_iff {registers : Registers} (hold : registers.HoldNumbers)
    (register : Register) (value : Float) :
    (registers.set register value).HoldNumbers ↔ value.isNaN = false := by
  constructor
  · intro kept
    have written := kept register
    rwa [Registers.get_set_self] at written
  · intro number other
    rw [Registers.get_set]
    split
    · exact number
    · exact hold other

/-- An update stores a NaN only if it combines two numbers to one. -/
theorem Registers.holdNumbers_update_iff {registers : Registers} (hold : registers.HoldNumbers)
    (combine : Float → Float → Float) (name : String) (value : Float) :
    ((Registers.update combine name value).on registers).2.HoldNumbers ↔
      ¬∃ register, Register.ofName? name = some register ∧ value.isNaN = false ∧
        (combine (registers.get register) value).isNaN = true := by
  cases found : Register.ofName? name with
  | none =>
      rw [Registers.on_update_of_none found]
      simp [hold]
  | some register =>
      cases number : value.isNaN with
      | true =>
          rw [Registers.on_update_of_isNaN found number]
          simp [hold]
      | false =>
          rw [Registers.on_update found number, Registers.holdNumbers_set_iff hold]
          simp

theorem Registers.holdNumbers_updateFrom_iff {registers : Registers}
    (hold : registers.HoldNumbers) (combine : Float → Float → Float) (name source : String) :
    (Change.on (do
        let value ← (← getThe Registers).read source
        Registers.update combine name value) registers).2.HoldNumbers ↔
      ¬∃ register other, Register.ofName? name = some register ∧
        Register.ofName? source = some other ∧
        (combine (registers.get register) (registers.get other)).isNaN = true := by
  rw [Registers.on_read_bind, Registers.value, Registers.read_eq]
  cases found : Register.ofName? source with
  | none => simp [hold]
  | some other =>
      simp only [Registers.holdNumbers_update_iff hold, hold other]
      simp

/-- Adding or subtracting one never cancels, for one is finite. -/
theorem not_infinite_one (negative : Bool) : decode 1 ≠ .infinite negative := by
  cases negative <;> decide +kernel

/-- The cancelling operations are the ones that bring a NaN into the registers. -/
theorem Registers.holdNumbers_apply_iff {registers : Registers} (hold : registers.HoldNumbers)
    (operation : Registers.Operation) :
    ((Registers.apply operation).on registers).2.HoldNumbers ↔ ¬registers.Cancels operation := by
  cases operation with
  | write name value =>
      have replaced := Registers.holdNumbers_update_iff hold (fun _ incoming => incoming) name value
      refine replaced.trans (not_congr ?_)
      simp only [Registers.Cancels, iff_false]
      rintro ⟨register, -, number, nan⟩
      exact Bool.false_ne_true (number.symm.trans nan)
  | move source destination =>
      have replaced := Registers.holdNumbers_updateFrom_iff hold (fun _ incoming => incoming)
        destination source
      refine replaced.trans (not_congr ?_)
      simp only [Registers.Cancels, iff_false]
      rintro ⟨register, other, -, -, nan⟩
      exact Bool.false_ne_true ((hold other).symm.trans nan)
  | increment name =>
      refine (Registers.holdNumbers_update_iff hold _ name 1).trans (not_congr ?_)
      simp only [Registers.Cancels, iff_false]
      rintro ⟨register, -, number, nan⟩
      obtain ⟨negative, -, infinite⟩ := opposite_iff.mpr ⟨hold register, number, nan⟩
      exact not_infinite_one _ infinite
  | decrement name =>
      refine (Registers.holdNumbers_update_iff hold _ name 1).trans (not_congr ?_)
      simp only [Registers.Cancels, iff_false]
      rintro ⟨register, -, number, nan⟩
      obtain ⟨negative, -, infinite⟩ := sameInfinity_iff.mpr ⟨hold register, number, nan⟩
      exact not_infinite_one _ infinite
  | addValue name value =>
      refine (Registers.holdNumbers_update_iff hold _ name value).trans (not_congr ?_)
      simp only [Registers.Cancels, opposite_iff, hold _, true_and]
  | subtractValue name value =>
      refine (Registers.holdNumbers_update_iff hold _ name value).trans (not_congr ?_)
      simp only [Registers.Cancels, sameInfinity_iff, hold _, true_and]
  | addRegister name source =>
      refine (Registers.holdNumbers_updateFrom_iff hold _ name source).trans (not_congr ?_)
      simp only [Registers.Cancels, opposite_iff, hold _, true_and]
  | subtractRegister name source =>
      refine (Registers.holdNumbers_updateFrom_iff hold _ name source).trans (not_congr ?_)
      simp only [Registers.Cancels, sameInfinity_iff, hold _, true_and]
  | reset => exact iff_of_true Registers.holdNumbers_zero not_false

/-- Registers that hold numbers are sound in every other respect. -/
theorem Registers.HoldNumbers.sound {registers : Registers} (hold : registers.HoldNumbers) :
    registers.Sound := by
  refine ⟨hold, fun source destination => ?_, ?_⟩
  · rw [Registers.move, Registers.on_read_bind, Registers.value, Registers.read_eq,
      Register.ofName?_name]
    exact congrArg Prod.fst
      (Registers.on_update (Register.ofName?_name destination) (hold source) _ registers)
  · rw [Registers.sameNumbers, List.all_eq_true]
    intro register _
    rw [beq_eq_compare, beq_iff_eq]
    exact compare_self (hold register)

theorem Registers.after_append_singleton (registers : Registers)
    (operations : List Registers.Operation) (operation : Registers.Operation) :
    registers.after (operations ++ [operation]) =
      ((Registers.apply operation).on (registers.after operations)).2 := by
  rw [Registers.after, List.foldl_append]
  rfl

/-- The registers stay sound as long as no infinities cancel, and no longer than that. -/
theorem Registers.sound_after_iff (operations : List Registers.Operation) :
    (∀ done, done <+: operations → (Registers.zero.after done).Sound) ↔
      ∀ done operation, done ++ [operation] <+: operations →
        ¬(Registers.zero.after done).Cancels operation := by
  constructor
  · intro sound done operation within
    have before := sound done ((List.prefix_append done [operation]).trans within)
    have next := sound (done ++ [operation]) within
    rw [Registers.after_append_singleton] at next
    exact (Registers.holdNumbers_apply_iff before.numbers operation).mp next.numbers
  · intro uncancelled done within
    apply Registers.HoldNumbers.sound
    -- The operations are taken from the end, for each one starts from all those before it.
    induction done using List.reverseRecOn with
    | nil => exact Registers.holdNumbers_zero
    | append_singleton done operation ih =>
        have before := ih ((List.prefix_append done [operation]).trans within)
        rw [Registers.after_append_singleton]
        exact (Registers.holdNumbers_apply_iff before operation).mpr
          (uncancelled done operation within)

/-- An infinity minus itself is stored as a NaN, which cannot be moved and equals nothing. -/
theorem Registers.not_sound_after_subtractRegister :
    let registers := Registers.zero.after
      [.write "a" (Float.ofBits 0x7ff0000000000000), .subtractRegister "a" "a"]
    (registers.get .a).isNaN = true ∧
      ((Registers.move "a" "b").on registers).1.isOk = false ∧
      registers.sameNumbers registers = false := by
  decide +kernel

end RegisterMachine
