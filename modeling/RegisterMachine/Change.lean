/-
This file defines changes of a state, which can fail.
A failing change leaves a state behind too, so it says nothing about what was done before it failed.
-/

import RegisterMachine.Number.Written

namespace RegisterMachine

/-- An operation fails on a name that denotes no register or on a NaN. -/
inductive RegisterError where
  | unknownRegister (name : String)
  | notANumber (value : Float)

/-- The message quotes the name or shows the number with its sign. -/
def RegisterError.message : RegisterError → String
  | .unknownRegister name => "register `" ++ name ++ "` does not exist"
  | .notANumber value => "operand `" ++ Number.written value ++ "` is not a number"

/-- A change leaves a state behind also when it fails, and nothing that it did is undone. -/
abbrev Change (State : Type) := ExceptT RegisterError (StateM State)

/-- A change starts in a state and ends with its result and the state that it leaves behind. -/
def Change.on {State Value : Type} (change : Change State Value) (state : State) :
    Except RegisterError Value × State :=
  change.run.run state

variable {State Value Other : Type}

@[simp] theorem Change.on_pure (value : Value) (state : State) :
    Change.on (pure value) state = (.ok value, state) := rfl

@[simp] theorem Change.on_lift (result : Except RegisterError Value) (state : State) :
    Change.on (liftM result) state = (result, state) := rfl

@[simp] theorem Change.on_getThe (state : State) :
    Change.on (getThe State) state = (.ok state, state) := rfl

@[simp] theorem Change.on_modify (update : State → State) (state : State) :
    Change.on (modify update) state = (.ok (), update state) := rfl

/-- The second change starts in the state that the first one leaves behind, unless that one failed. -/
theorem Change.on_bind (change : Change State Value) (next : Value → Change State Other)
    (state : State) :
    Change.on (change >>= next) state =
      match change.on state with
      | (.ok value, after) => (next value).on after
      | (.error error, after) => (.error error, after) := by
  simp only [Change.on, ExceptT.run_bind, StateT.run_bind]
  cases change.run.run state with
  | mk result after => cases result <;> rfl

end RegisterMachine
