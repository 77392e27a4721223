/-
This file holds the numbers of the fourteen registers and the operations on them.
An operation names its registers by text, checks them all before it writes, and refuses a NaN.
-/

import RegisterMachine.Change
import RegisterMachine.Comparison
import RegisterMachine.Register

namespace RegisterMachine

/-- Each register holds one binary64 number, whatever its kind. -/
structure Registers where
  values : Vector Float 14

/-- All registers hold zero at first. -/
def Registers.zero : Registers :=
  ⟨Vector.replicate 14 0⟩

instance : Inhabited Registers := ⟨Registers.zero⟩

/-- This function reads one register. -/
def Registers.get (registers : Registers) (register : Register) : Float :=
  registers.values[register.index]

/-- This function writes one register and keeps the others. -/
def Registers.set (registers : Registers) (register : Register) (value : Float) : Registers :=
  ⟨registers.values.set register.index value⟩

/-- Two states hold the same numbers when each register compares equal to its counterpart. -/
def Registers.sameNumbers (first second : Registers) : Bool :=
  Register.all.all fun register => first.get register == second.get register

/-- This function finds the register that a name denotes. -/
def Registers.resolve (name : String) : Except RegisterError Register :=
  match Register.ofName? name with
  | some register => .ok register
  | none => .error (.unknownRegister name)

/-- Every number passes but a NaN. -/
def Registers.validate (value : Float) : Except RegisterError Float :=
  if value.isNaN then .error (.notANumber value) else .ok value

/-- Reading needs a known name and accepts any number. -/
def Registers.read (registers : Registers) (name : String) : Except RegisterError Float := do
  let register ← Registers.resolve name
  return registers.get register

/-- The update combines the number in the named register with an incoming one.
The name is looked up before the incoming number is checked. -/
def Registers.update (combine : Float → Float → Float) (name : String) (value : Float) :
    Change Registers Unit := do
  let register ← Registers.resolve name
  let incoming ← Registers.validate value
  modify fun registers => registers.set register (combine (registers.get register) incoming)

/-- Writing replaces the number of a register. -/
def Registers.write (name : String) (value : Float) : Change Registers Unit :=
  Registers.update (fun _ incoming => incoming) name value

/-- Addition rounds to the nearest binary64 number. -/
def Registers.addValue (name : String) (value : Float) : Change Registers Unit :=
  Registers.update (fun current incoming => current + incoming) name value

/-- Subtraction rounds to the nearest binary64 number. -/
def Registers.subtractValue (name : String) (value : Float) : Change Registers Unit :=
  Registers.update (fun current incoming => current - incoming) name value

/-- An increment adds one. -/
def Registers.increment (name : String) : Change Registers Unit :=
  Registers.addValue name 1

/-- A decrement subtracts one. -/
def Registers.decrement (name : String) : Change Registers Unit :=
  Registers.subtractValue name 1

/-- The source is read before the other register is looked up, also when both are the same. -/
def Registers.addRegister (name source : String) : Change Registers Unit := do
  let value ← (← getThe Registers).read source
  Registers.addValue name value

/-- The source is read first here too. -/
def Registers.subtractRegister (name source : String) : Change Registers Unit := do
  let value ← (← getThe Registers).read source
  Registers.subtractValue name value

/-- The source keeps its number. -/
def Registers.move (source destination : String) : Change Registers Unit := do
  let value ← (← getThe Registers).read source
  Registers.write destination value

/-- Two registers are compared as they stand, so neither is refused for holding a NaN. -/
def Registers.compareRegisters (registers : Registers) (left : String) (comparison : Comparison)
    (right : String) : Except RegisterError Bool := do
  let first ← registers.read left
  let second ← registers.read right
  return comparison.test first second

/-- A number from outside is refused if it is a NaN, after the name is looked up. -/
def Registers.compareRegisterValue (registers : Registers) (name : String)
    (comparison : Comparison) (value : Float) : Except RegisterError Bool := do
  let first ← registers.read name
  let second ← Registers.validate value
  return comparison.test first second

/-- Two numbers from outside are both checked, the left one first. -/
def Registers.compareValues (left : Float) (comparison : Comparison) (right : Float) :
    Except RegisterError Bool := do
  let first ← Registers.validate left
  let second ← Registers.validate right
  return comparison.test first second

/-- An operation is one request to change the registers. -/
inductive Registers.Operation where
  | write (name : String) (value : Float)
  | increment (name : String)
  | decrement (name : String)
  | addRegister (name source : String)
  | addValue (name : String) (value : Float)
  | subtractRegister (name source : String)
  | subtractValue (name : String) (value : Float)
  | move (source destination : String)
  | reset

/-- Each request is one change of the registers. -/
def Registers.apply : Registers.Operation → Change Registers Unit
  | .write name value => Registers.write name value
  | .increment name => Registers.increment name
  | .decrement name => Registers.decrement name
  | .addRegister name source => Registers.addRegister name source
  | .addValue name value => Registers.addValue name value
  | .subtractRegister name source => Registers.subtractRegister name source
  | .subtractValue name value => Registers.subtractValue name value
  | .move source destination => Registers.move source destination
  | .reset => modify fun _ => Registers.zero

@[simp] theorem Registers.get_zero (register : Register) : Registers.zero.get register = 0 := by
  simp [Registers.get, Registers.zero]

theorem Registers.get_set (registers : Registers) (written other : Register) (value : Float) :
    (registers.set written value).get other =
      if other = written then value else registers.get other := by
  simp only [Registers.get, Registers.set, Fin.getElem_fin, Vector.getElem_set]
  by_cases same : other = written
  · subst same
    simp
  · have different : (written.index : Nat) ≠ other.index := by
      intro equal
      exact same (Register.index_injective (Fin.ext equal)).symm
    simp [same, different]

@[simp] theorem Registers.get_set_self (registers : Registers) (register : Register)
    (value : Float) : (registers.set register value).get register = value := by
  rw [Registers.get_set, if_pos rfl]

theorem Registers.get_set_of_ne (registers : Registers) {written other : Register}
    (different : other ≠ written) (value : Float) :
    (registers.set written value).get other = registers.get other := by
  rw [Registers.get_set, if_neg different]

/-- The registers are determined by their numbers. -/
theorem Registers.ext_get {first second : Registers}
    (same : ∀ register, first.get register = second.get register) : first = second := by
  obtain ⟨left⟩ := first
  obtain ⟨right⟩ := second
  congr 1
  apply Vector.ext
  intro position inside
  obtain ⟨register, found⟩ := Register.exists_index ⟨position, inside⟩
  have equal := same register
  simp only [Registers.get, found] at equal
  exact equal

end RegisterMachine
