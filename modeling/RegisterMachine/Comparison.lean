/-
This file compares numbers and keeps the results in flags.
Each comparison has a flag of its own, which is the only flag that it writes.
-/

import RegisterMachine.Lookup

namespace RegisterMachine

/-- A flag is named for the comparison that writes it. -/
inductive Flag where
  | gt
  | lt
  | eq
  deriving DecidableEq

/-- The list holds each flag once. -/
def Flag.all : List Flag :=
  [.gt, .lt, .eq]

def Flag.name : Flag → String
  | .gt => "GT"
  | .lt => "LT"
  | .eq => "EQ"

/-- Only the exact name denotes a flag. -/
def Flag.ofName? (name : String) : Option Flag :=
  Flag.all.find? fun flag => flag.name == name

/-- The flags are all clear at first. -/
structure Flags where
  gt : Bool := false
  lt : Bool := false
  eq : Bool := false
  deriving DecidableEq

/-- This function reads one flag. -/
def Flags.get (flags : Flags) : Flag → Bool
  | .gt => flags.gt
  | .lt => flags.lt
  | .eq => flags.eq

/-- This function writes one flag and keeps the others. -/
def Flags.set (flags : Flags) (flag : Flag) (value : Bool) : Flags :=
  match flag with
  | .gt => { flags with gt := value }
  | .lt => { flags with lt := value }
  | .eq => { flags with eq := value }

/-- The machine can test these three relations. -/
inductive Comparison where
  | greaterThan
  | lessThan
  | equals
  deriving DecidableEq

/-- The test follows the order of binary64 numbers, in which a NaN is related to nothing. -/
def Comparison.test (comparison : Comparison) (left right : Float) : Bool :=
  match comparison with
  | .greaterThan => decide (left > right)
  | .lessThan => decide (left < right)
  | .equals => left == right

/-- The flipped comparison holds of two numbers when this one holds of them exchanged. -/
def Comparison.flipped : Comparison → Comparison
  | .greaterThan => .lessThan
  | .lessThan => .greaterThan
  | .equals => .equals

/-- The flag of a comparison keeps its last result. -/
def Comparison.flag : Comparison → Flag
  | .greaterThan => .gt
  | .lessThan => .lt
  | .equals => .eq

/-- The relation is the wording of a comparison in a sentence. -/
def Comparison.relation : Comparison → String
  | .greaterThan => "greater than"
  | .lessThan => "less than"
  | .equals => "equal to"

theorem Flag.mem_all (flag : Flag) : flag ∈ Flag.all := by
  cases flag <;> decide

theorem Flag.name_injective {first second : Flag} (same : first.name = second.name) :
    first = second := by
  cases first <;> cases second <;> first | rfl | exact absurd same (by decide)

theorem Flag.ofName?_eq_some_iff {name : String} {flag : Flag} :
    Flag.ofName? name = some flag ↔ name = flag.name :=
  find?_key_eq_some_iff Flag.mem_all Flag.name_injective

theorem Flags.get_set (flags : Flags) (written other : Flag) (value : Bool) :
    (flags.set written value).get other = if other = written then value else flags.get other := by
  cases written <;> cases other <;> rfl

theorem Flags.ext_get {first second : Flags}
    (same : ∀ flag, first.get flag = second.get flag) : first = second := by
  have gt := same .gt
  have lt := same .lt
  have eq := same .eq
  cases first
  cases second
  simp_all [Flags.get]

@[simp] theorem Comparison.flipped_flipped (comparison : Comparison) :
    comparison.flipped.flipped = comparison := by
  cases comparison <;> rfl

theorem Comparison.flag_injective {first second : Comparison}
    (same : first.flag = second.flag) : first = second := by
  cases first <;> cases second <;> first | rfl | exact absurd same (by decide)

end RegisterMachine
