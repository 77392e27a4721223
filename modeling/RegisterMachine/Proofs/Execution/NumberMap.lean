/-
This file compares the registers with a map from the fourteen names to numbers.
Every operation but a reset is one kind of request, and no sequence of operations tells the
registers and the map apart.
-/

import RegisterMachine.Proofs.Execution.Cancellation

namespace RegisterMachine

/-- The names that can be looked up are the keys of the map. -/
abbrev Register.Name : Type :=
  { name : String // Register.isName name = true }

/-- A request combines an incoming number with the number of one register. -/
structure Registers.Request where
  incoming : Operand Float
  destination : String
  combine : Float → Float → Float

/-- The source, if there is one, comes before the destination. -/
def Registers.Request.names (request : Registers.Request) : List String :=
  request.incoming.names ++ [request.destination]

/-- A request combines the current number with the incoming one, in this order. -/
def Registers.Operation.request? : Registers.Operation → Option Registers.Request
  | .write name value => some ⟨.literal value, name, fun _ incoming => incoming⟩
  | .increment name => some ⟨.literal 1, name, fun current incoming => current + incoming⟩
  | .decrement name => some ⟨.literal 1, name, fun current incoming => current - incoming⟩
  | .addRegister name source =>
      some ⟨.register source, name, fun current incoming => current + incoming⟩
  | .addValue name value => some ⟨.literal value, name, fun current incoming => current + incoming⟩
  | .subtractRegister name source =>
      some ⟨.register source, name, fun current incoming => current - incoming⟩
  | .subtractValue name value =>
      some ⟨.literal value, name, fun current incoming => current - incoming⟩
  | .move source destination =>
      some ⟨.register source, destination, fun _ incoming => incoming⟩
  | .reset => none

/-- The incoming number is given with the request or stands in its source. -/
def Registers.TakesIn (registers : Registers) : Operand Float → Float → Prop
  | .register name, incoming =>
      ∃ source : Register, source.name = name ∧ registers.get source = incoming
  | .literal value, incoming => value = incoming

/-- A request ends in one of three ways, and only success leaves different registers behind. -/
inductive Registers.Request.Ends (request : Registers.Request) (before : Registers) :
    Except RegisterError Unit × Registers → Prop where
  | unknown {name : String}
      (first : request.names.find? (fun name => !Register.isName name) = some name) :
      request.Ends before (.error (.unknownRegister name), before)
  | refused {incoming : Float} (named : ∀ name ∈ request.names, Register.isName name = true)
      (taken : before.TakesIn request.incoming incoming) (refused : incoming.isNaN = true) :
      request.Ends before (.error (.notANumber incoming), before)
  | done {incoming : Float} {destination : Register} {after : Registers}
      (named : ∀ name ∈ request.names, Register.isName name = true)
      (taken : before.TakesIn request.incoming incoming) (number : incoming.isNaN = false)
      (found : destination.name = request.destination)
      (written : after.get destination = request.combine (before.get destination) incoming)
      (kept : ∀ other, other ≠ destination → after.get other = before.get other) :
      request.Ends before (.ok (), after)

/-- A number map holds one number for each name. -/
abbrev NumberMap : Type :=
  Register.Name → Float

/-- This function checks that a text is a key. -/
def NumberMap.key (name : String) : Except RegisterError Register.Name :=
  if named : Register.isName name = true then .ok ⟨name, named⟩
  else .error (.unknownRegister name)

def NumberMap.lookup (map : NumberMap) (name : String) : Except RegisterError Float :=
  return map (← NumberMap.key name)

/-- A number from outside is there without looking it up. -/
def NumberMap.value (map : NumberMap) : Operand Float → Except RegisterError Float
  | .register name => map.lookup name
  | .literal value => .ok value

/-- The key is checked before the number, and nothing is replaced by a NaN from outside. -/
def NumberMap.update (map : NumberMap) (combine : Float → Float → Float) (name : String)
    (incoming : Float) : Except RegisterError NumberMap := do
  let destination ← NumberMap.key name
  if incoming.isNaN then .error (.notANumber incoming)
  else .ok (Function.update map destination (combine (map destination) incoming))

def NumberMap.perform (map : NumberMap) (request : Registers.Request) :
    Except RegisterError NumberMap := do
  let incoming ← map.value request.incoming
  map.update request.combine request.destination incoming

/-- A reset makes every number zero. -/
def NumberMap.apply (map : NumberMap) (operation : Registers.Operation) :
    Except RegisterError NumberMap :=
  match operation.request? with
  | some request => map.perform request
  | none => .ok fun _ => 0

/-- An operation that fails is passed over. -/
def NumberMap.after (map : NumberMap) (operations : List Registers.Operation) : NumberMap :=
  operations.foldl (fun current operation => (current.apply operation).toOption.getD current) map

/-- Each name denotes one register, and each register has one name. -/
def Register.Name.equiv : Register.Name ≃ Register where
  toFun name := (Register.ofName? name.val).get (Register.isName_eq name.val ▸ name.property)
  invFun register := ⟨register.name, by rw [Register.isName_eq, Register.ofName?_name]; rfl⟩
  left_inv name := Subtype.ext (Register.eq_name_of_ofName? (Option.some_get _).symm).symm
  right_inv register := by simp

/-- The map of some registers finds each number under the name of its register. -/
def Registers.toMap (registers : Registers) : NumberMap :=
  fun name => registers.get (Register.Name.equiv name)

theorem Register.ofName?_key (name : Register.Name) :
    Register.ofName? name.val = some (Register.Name.equiv name) :=
  (Option.some_get _).symm

/-- A text is a key exactly when a register can be found with it. -/
theorem Registers.resolve_eq_key (name : String) :
    Registers.resolve name = (NumberMap.key name).map Register.Name.equiv := by
  rw [NumberMap.key]
  split
  · next named => exact Registers.resolve_of_some (Register.ofName?_key ⟨name, named⟩)
  · next unnamed =>
      rw [Register.isName_eq, Option.not_isSome_iff_eq_none] at unnamed
      exact Registers.resolve_of_none unnamed

theorem Registers.read_eq_lookup (registers : Registers) (name : String) :
    registers.read name = registers.toMap.lookup name := by
  rw [Registers.read, Registers.resolve_eq_key, NumberMap.lookup]
  cases NumberMap.key name <;> rfl

theorem Registers.value_eq_value (registers : Registers) (operand : Operand Float) :
    registers.value operand = registers.toMap.value operand := by
  cases operand with
  | register name => exact registers.read_eq_lookup name
  | literal value => rfl

theorem Registers.toMap_set (registers : Registers) (name : Register.Name) (value : Float) :
    (registers.set (Register.Name.equiv name) value).toMap =
      Function.update registers.toMap name value := by
  funext other
  simp only [Registers.toMap, Registers.get_set, Function.update_apply,
    Register.Name.equiv.injective.eq_iff]

/-- An operation that is a request takes its number in first and then updates a register. -/
theorem Registers.on_apply_of_request {operation : Registers.Operation}
    {request : Registers.Request} (found : operation.request? = some request)
    (registers : Registers) :
    (Registers.apply operation).on registers =
      match registers.value request.incoming with
      | .ok incoming =>
          (Registers.update request.combine request.destination incoming).on registers
      | .error error => (.error error, registers) := by
  cases operation with
  | write | increment | decrement | addValue | subtractValue =>
      cases found
      rfl
  | move source destination =>
      cases found
      exact Registers.on_read_bind source (Registers.write destination) registers
  | addRegister name source =>
      cases found
      exact Registers.on_read_bind source (Registers.addValue name) registers
  | subtractRegister name source =>
      cases found
      exact Registers.on_read_bind source (Registers.subtractValue name) registers
  | reset => cases found

theorem Registers.update_toMap (registers : Registers) (combine : Float → Float → Float)
    (name : String) (value : Float) :
    registers.toMap.update combine name value =
      ((Registers.update combine name value).on registers).1.map fun _ =>
        ((Registers.update combine name value).on registers).2.toMap := by
  rw [NumberMap.update]
  by_cases named : Register.isName name = true
  · have key : NumberMap.key name = .ok ⟨name, named⟩ := dif_pos named
    have known := Register.ofName?_key ⟨name, named⟩
    rw [key]
    simp only [bind, Except.bind]
    cases number : value.isNaN with
    | true =>
        rw [Registers.on_update_of_isNaN known number]
        rfl
    | false =>
        rw [Registers.on_update known number]
        simp only [Except.map, Registers.toMap_set]
        rfl
  · have key : NumberMap.key name = .error (.unknownRegister name) := dif_neg named
    rw [Register.isName_eq, Option.not_isSome_iff_eq_none] at named
    rw [key, Registers.on_update_of_none named]
    rfl

/-- One operation has the same result on the map and leaves the same numbers behind. -/
theorem Registers.apply_toMap (registers : Registers) (operation : Registers.Operation) :
    registers.toMap.apply operation =
      ((Registers.apply operation).on registers).1.map fun _ =>
        ((Registers.apply operation).on registers).2.toMap := by
  rw [NumberMap.apply]
  cases found : operation.request? with
  | none =>
      cases operation with
      | reset => exact congrArg Except.ok (funext fun name => (Registers.get_zero _).symm)
      | _ => cases found
  | some request =>
      dsimp only
      rw [Registers.on_apply_of_request found, NumberMap.perform, Registers.value_eq_value]
      cases registers.toMap.value request.incoming with
      | error error => rfl
      | ok incoming =>
          exact registers.update_toMap request.combine request.destination incoming

/-- The registers and the map stay together also when an operation fails. -/
theorem Registers.toMap_after (registers : Registers) (operations : List Registers.Operation) :
    (registers.after operations).toMap = registers.toMap.after operations := by
  induction operations using List.reverseRecOn with
  | nil => rfl
  | append_singleton done operation ih =>
      rw [Registers.after_append_singleton, NumberMap.after, List.foldl_append, List.foldl_cons,
        List.foldl_nil]
      change _ = ((registers.toMap.after done).apply operation).toOption.getD
        (registers.toMap.after done)
      rw [← ih, Registers.apply_toMap]
      have atomic := Registers.apply_atomic operation (registers.after done)
      cases result : ((Registers.apply operation).on (registers.after done)).1 with
      | ok value => rfl
      | error error =>
          rw [atomic error result]
          rfl

theorem Registers.value_eq_ok_iff {registers : Registers} {operand : Operand Float}
    {incoming : Float} :
    registers.value operand = .ok incoming ↔ registers.TakesIn operand incoming := by
  cases operand with
  | literal value => exact ⟨Except.ok.inj, congrArg Except.ok⟩
  | register name =>
      rw [Registers.value, Registers.read_eq, Registers.TakesIn]
      constructor
      · intro read
        split at read
        · next source found =>
            exact ⟨source, (Register.eq_name_of_ofName? found).symm, Except.ok.inj read⟩
        · cases read
      · rintro ⟨source, rfl, rfl⟩
        rw [Register.ofName?_name]

theorem Registers.Request.named_iff {request : Registers.Request} :
    (∀ name ∈ request.names, Register.isName name = true) ↔
      request.names.find? (fun name => !Register.isName name) = none := by
  simp only [List.find?_eq_none, Bool.not_eq_true', Bool.not_eq_false]

theorem Registers.Request.not_named {request : Registers.Request} {name : String}
    (missing : request.names.find? (fun name => !Register.isName name) = some name) :
    ¬∀ name ∈ request.names, Register.isName name = true := by
  rw [Registers.Request.named_iff, missing]
  exact nofun

/-- Every operation that is a request ends in one of the three ways. -/
theorem Registers.Request.ends_apply {operation : Registers.Operation}
    {request : Registers.Request} (found : operation.request? = some request)
    (registers : Registers) :
    request.Ends registers ((Registers.apply operation).on registers) := by
  have source := registers.value_of_find?_names request.incoming
  rw [Registers.on_apply_of_request found]
  cases first : request.incoming.names.find? fun name => !Register.isName name with
  | some unknown =>
      rw [first] at source
      rw [source]
      exact .unknown (by rw [Registers.Request.names, List.find?_append, first]; rfl)
  | none =>
      rw [first] at source
      obtain ⟨incoming, read⟩ := source
      have taken := Registers.value_eq_ok_iff.mp read
      have names : request.names.find? (fun name => !Register.isName name) =
          [request.destination].find? fun name => !Register.isName name := by
        rw [Registers.Request.names, List.find?_append, first, Option.none_or]
      rw [read]
      dsimp only
      cases known : Register.ofName? request.destination with
      | none =>
          rw [Registers.on_update_of_none known]
          exact .unknown (by rw [names]; simp [Register.isName_eq, known])
      | some destination =>
          have named : ∀ name ∈ request.names, Register.isName name = true :=
            Registers.Request.named_iff.mpr (by rw [names]; simp [Register.isName_eq, known])
          cases number : incoming.isNaN with
          | true =>
              rw [Registers.on_update_of_isNaN known number]
              exact .refused named taken number
          | false =>
              rw [Registers.on_update known number]
              refine .done named taken number (Register.eq_name_of_ofName? known).symm
                (Registers.get_set_self _ _ _) ?_
              intro other different
              exact Registers.get_set_of_ne registers different _

theorem Registers.TakesIn.unique {registers : Registers} {operand : Operand Float}
    {first second : Float} (left : registers.TakesIn operand first)
    (right : registers.TakesIn operand second) : first = second := by
  rw [← Registers.value_eq_ok_iff] at left right
  exact Except.ok.inj (left.symm.trans right)

/-- The three ways to end exclude each other. -/
theorem Registers.Request.Ends.unique {request : Registers.Request} {before : Registers}
    {first second : Except RegisterError Unit × Registers} (left : request.Ends before first)
    (right : request.Ends before second) : first = second := by
  cases left with
  | unknown missing =>
      cases right with
      | unknown other => rw [Option.some.inj (missing.symm.trans other)]
      | refused named | done named =>
          exact absurd named (Registers.Request.not_named missing)
  | refused named taken refused =>
      cases right with
      | unknown missing => exact absurd named (Registers.Request.not_named missing)
      | refused _ otherTaken => rw [taken.unique otherTaken]
      | done _ otherTaken number =>
          rw [taken.unique otherTaken, number] at refused
          cases refused
  | @done incoming destination after named taken number found written kept =>
      cases right with
      | unknown missing => exact absurd named (Registers.Request.not_named missing)
      | refused _ otherTaken refused =>
          rw [← taken.unique otherTaken, number] at refused
          cases refused
      | @done otherIncoming otherDestination otherAfter _ otherTaken _ otherFound otherWritten
          otherKept =>
          have same := Register.Name.equiv.symm.injective
            (Subtype.ext (found.trans otherFound.symm))
          subst same
          rw [← taken.unique otherTaken, ← written] at otherWritten
          refine Prod.ext rfl (Registers.ext_get fun register => ?_)
          by_cases changed : register = destination
          · rw [changed, otherWritten]
          · rw [kept register changed, otherKept register changed]

theorem Registers.Request.Ends.ok_iff {request : Registers.Request} {before : Registers}
    {outcome : Except RegisterError Unit × Registers} (ends : request.Ends before outcome) :
    outcome.1 = .ok () ↔ (∀ name ∈ request.names, Register.isName name = true) ∧
      ∀ incoming, before.TakesIn request.incoming incoming → incoming.isNaN = false := by
  constructor
  · intro succeeded
    cases ends with
    | unknown | refused => cases succeeded
    | done named taken number =>
        refine ⟨named, fun incoming other => ?_⟩
        rw [other.unique taken]
        exact number
  · rintro ⟨named, numbers⟩
    cases ends with
    | unknown missing => exact absurd named (Registers.Request.not_named missing)
    | refused _ taken refused =>
        rw [numbers _ taken] at refused
        cases refused
    | done => rfl

/-- Each request ends in exactly one way, and it succeeds exactly when its names can be looked up
and the number that comes in is no NaN. After any operations the registers and the map give the
same answers. -/
theorem Registers.refines_map (registers : Registers) :
    (∀ operation request, Registers.Operation.request? operation = some request →
      (∀ outcome, (Registers.apply operation).on registers = outcome ↔
        request.Ends registers outcome) ∧
      (((Registers.apply operation).on registers).1 = .ok () ↔
        (∀ name ∈ request.names, Register.isName name = true) ∧
          ∀ incoming, registers.TakesIn request.incoming incoming → incoming.isNaN = false)) ∧
    ∀ operations,
      (∀ name, (registers.after operations).read name =
        (registers.toMap.after operations).lookup name) ∧
      ∀ operation, ((Registers.apply operation).on (registers.after operations)).1 =
        ((registers.toMap.after operations).apply operation).map fun _ => () := by
  refine ⟨?_, ?_⟩
  · intro operation request found
    have ends := Registers.Request.ends_apply found registers
    refine ⟨?_, ?_⟩
    · intro outcome
      constructor
      · rintro rfl
        exact ends
      · intro other
        exact ends.unique other
    · exact ends.ok_iff
  · intro operations
    rw [← Registers.toMap_after]
    refine ⟨(registers.after operations).read_eq_lookup, ?_⟩
    intro operation
    rw [Registers.apply_toMap]
    cases ((Registers.apply operation).on (registers.after operations)).1 <;> rfl

/-- A register that is its own source is doubled, and a move to a name after the last is passed
over. -/
theorem Registers.refines_map_doubled :
    let registers := Registers.zero.set .b 3
    (Registers.apply (.addRegister "b" "b")).on registers = (.ok (), registers.set .b 6) ∧
      ((registers.after [.addRegister "b" "b", .move "b" "o", .move "b" "n"]).read "n").toOption =
        some 6 := by
  obtain ⟨requests, sequences⟩ := Registers.refines_map (Registers.zero.set .b 3)
  obtain ⟨ends, -⟩ := requests (.addRegister "b" "b") _ rfl
  obtain ⟨reads, -⟩ := sequences [.addRegister "b" "b", .move "b" "o", .move "b" "n"]
  refine ⟨?_, ?_⟩
  · rw [ends]
    have name : Register.b.name = "b" := rfl
    refine .done (by decide) ⟨.b, name, rfl⟩ (by decide +kernel) name (by decide +kernel) ?_
    intro other different
    exact Registers.get_set_of_ne _ different 6
  · rw [reads]
    decide +kernel

end RegisterMachine
