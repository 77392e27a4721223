/-
This file looks a value up by its key in the list of all values of a type.
If no two values share a key, then the key of a value finds it and no other key does.
-/

namespace RegisterMachine

variable {Value Key : Type} [BEq Key] [LawfulBEq Key] {all : List Value} {key : Value → Key}

theorem find?_key_eq_some_iff (complete : ∀ value, value ∈ all)
    (injective : ∀ {first second}, key first = key second → first = second)
    {wanted : Key} {value : Value} :
    (all.find? fun other => key other == wanted) = some value ↔ wanted = key value := by
  constructor
  · intro found
    have same := List.find?_some found
    exact (beq_iff_eq.mp same).symm
  · rintro rfl
    cases found : all.find? fun other => key other == key value with
    | none => exact absurd (BEq.rfl) (List.find?_eq_none.mp found value (complete value))
    | some other =>
        have same := List.find?_some found
        rw [injective (beq_iff_eq.mp same)]

end RegisterMachine
