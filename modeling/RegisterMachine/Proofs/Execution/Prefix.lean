/-
This file proves that a run does what the steps before its first failure do, and nothing else.
The first failure is found by searching the positions of the program, without running it as a whole.
-/

import RegisterMachine.Proofs.Execution.Atomicity
import RegisterMachine.Run
import RegisterMachine.Sink

namespace RegisterMachine

/-- The fold hands each state on to the next step and collects the records. -/
def Processor.fold (processor : Processor) (steps : List (Step Float)) :
    Processor × List Record :=
  steps.foldl (fun reached step =>
    match (Processor.execute step.instruction).on reached.1 with
    | (.ok record?, after) => (after, reached.2 ++ record?.toList)
    | (.error _, after) => (after, reached.2)) (processor, [])

/-- The error at a position is the one that its step meets after all the steps before it. -/
def Processor.errorAt? (processor : Processor) (program : Program Float) (position : Nat) :
    Option RegisterError :=
  match program[position]? with
  | none => none
  | some step =>
      match (Processor.execute step.instruction).on (processor.fold (program.take position)).1 with
      | (.ok _, _) => none
      | (.error error, _) => some error

/-- The first failure is the least position with an error. -/
def Processor.firstFailure? (processor : Processor) (program : Program Float) : Option Nat :=
  (List.range program.length).find? fun position =>
    (processor.errorAt? program position).isSome

/-- The second run starts where the first one ended, unless the first one failed. -/
def Run.andThen (first : Run) (next : Processor → Run) : Run :=
  match first.failure? with
  | some _ => first
  | none =>
      let second := next first.processor
      { second with events := first.events ++ second.events }

/-- Two runs agree when a user who does not read the traces cannot tell them apart. -/
structure Run.Agrees (first second : Run) : Prop where
  processor : first.processor = second.processor
  records : first.records = second.records
  failure? : first.failure? = second.failure?

/-- A run completes a program if it does what all the steps of the program do. -/
structure Run.Completes (run : Run) (processor : Processor) (program : Program Float) :
    Prop where
  succeeded : run.failure? = none
  reached : run.processor = (processor.fold program).1
  records : run.records = (processor.fold program).2

/-- A run stops at a position if it does what the steps before that position do.
The step at the position fails, and the state after it is still the state before it. -/
structure Run.StopsAt (run : Run) (processor : Processor) (program : Program Float)
    (position : Nat) : Prop where
  failed : ∃ step error, program[position]? = some step ∧
    processor.errorAt? program position = some error ∧ run.failure? = some ⟨step, error⟩ ∧
    run.failure?.map Failure.context = some ("Failed to execute `" ++
      step.instruction.display ++ "` on line " ++ toString step.line)
  reached : run.processor = (processor.fold (program.take position)).1
  unchanged : (processor.fold (program.take (position + 1))).1 = run.processor
  records : run.records = (processor.fold (program.take position)).2

/-- The fold goes on from the state and the records that it has reached. -/
theorem Processor.foldl_fold (processor : Processor) (records : List Record)
    (steps : List (Step Float)) :
    steps.foldl (fun reached step =>
      match (Processor.execute step.instruction).on reached.1 with
      | (.ok record?, after) => (after, reached.2 ++ record?.toList)
      | (.error _, after) => (after, reached.2)) (processor, records) =
      ((processor.fold steps).1, records ++ (processor.fold steps).2) := by
  induction steps generalizing processor records with
  | nil => simp [Processor.fold]
  | cons step rest ih =>
      simp only [Processor.fold, List.foldl_cons]
      rcases (Processor.execute step.instruction).on processor with ⟨result | result, after⟩
      · rw [ih after records, ih after []]
        simp
      · rw [ih after (records ++ _), ih after ([] ++ _)]
        simp

theorem Processor.fold_cons (processor : Processor) (step : Step Float)
    (rest : List (Step Float)) :
    processor.fold (step :: rest) =
      match (Processor.execute step.instruction).on processor with
      | (.ok record?, after) => ((after.fold rest).1, record?.toList ++ (after.fold rest).2)
      | (.error _, after) => after.fold rest := by
  rw [Processor.fold, List.foldl_cons]
  rcases (Processor.execute step.instruction).on processor with ⟨result | result, after⟩
  · exact Processor.foldl_fold after [] rest
  · exact Processor.foldl_fold after ([] ++ _) rest

theorem Processor.errorAt?_zero (processor : Processor) (step : Step Float)
    (rest : List (Step Float)) :
    processor.errorAt? (step :: rest) 0 =
      match (Processor.execute step.instruction).on processor with
      | (.ok _, _) => none
      | (.error error, _) => some error := rfl

/-- A later position of the program is an earlier one after its first step. -/
theorem Processor.errorAt?_succ {processor after : Processor} {step : Step Float}
    {result : Except RegisterError (Option Record)}
    (executed : (Processor.execute step.instruction).on processor = (result, after))
    (rest : List (Step Float)) (position : Nat) :
    processor.errorAt? (step :: rest) (position + 1) = after.errorAt? rest position := by
  simp only [Processor.errorAt?, List.getElem?_cons_succ, List.take_succ_cons,
    Processor.fold_cons, executed]
  cases result <;> rfl

/-- The search looks at the first step and then at the rest of the program. -/
theorem Processor.firstFailure?_cons (processor : Processor) (step : Step Float)
    (rest : List (Step Float)) :
    processor.firstFailure? (step :: rest) =
      match (Processor.execute step.instruction).on processor with
      | (.ok _, after) => (after.firstFailure? rest).map (· + 1)
      | (.error _, _) => some 0 := by
  simp only [Processor.firstFailure?, List.length_cons, List.range_succ_eq_map, List.find?_cons,
    List.find?_map]
  rcases executed : (Processor.execute step.instruction).on processor with ⟨result | result, after⟩
  · simp only [Processor.errorAt?_zero, executed, Option.isSome_some]
  · simp only [Processor.errorAt?_zero, executed, Option.isSome_none]
    congr 2
    funext position
    simp only [Function.comp_apply, Nat.succ_eq_add_one, Processor.errorAt?_succ executed]

theorem Processor.step_ok {processor after : Processor} {step : Step Float}
    {record? : Option Record}
    (executed : (Processor.execute step.instruction).on processor = (.ok record?, after)) :
    processor.step step =
      ⟨after, .trace (.attempted step) :: record?.toList.map .record, none⟩ := by
  simp only [Processor.step, executed]

/-- A failing step leaves the processor as it was and hands out no record. -/
theorem Processor.step_error {processor after : Processor} {step : Step Float}
    {error : RegisterError}
    (executed : (Processor.execute step.instruction).on processor = (.error error, after)) :
    processor.step step = ⟨processor, [.trace (.attempted step)], some ⟨step, error⟩⟩ := by
  have kept := Processor.execute_atomic step.instruction processor error (by rw [executed])
  rw [executed] at kept
  change after = processor at kept
  subst kept
  simp only [Processor.step, executed]

/-- A run is its first step and then, unless that failed, the run of the rest. -/
theorem Processor.runSteps_cons (processor : Processor) (step : Step Float)
    (rest : List (Step Float)) :
    processor.runSteps (step :: rest) =
      (processor.step step).andThen fun reached => reached.runSteps rest := rfl

theorem Run.records_andThen_of_none {first : Run} (succeeded : first.failure? = none)
    (next : Processor → Run) :
    (first.andThen next).records = first.records ++ (next first.processor).records := by
  simp only [Run.andThen, succeeded, Run.records, List.filterMap_append]

theorem Run.andThen_of_some {first : Run} {failure : Failure}
    (failed : first.failure? = some failure) (next : Processor → Run) :
    first.andThen next = first := by
  simp only [Run.andThen, failed]

theorem Run.andThen_assoc (first : Run) (second third : Processor → Run) :
    (first.andThen second).andThen third =
      first.andThen fun reached => (second reached).andThen third := by
  cases failed : first.failure? with
  | some failure => simp only [Run.andThen, failed]
  | none =>
      cases later : (second first.processor).failure? with
      | some failure => simp only [Run.andThen, failed, later]
      | none => simp only [Run.andThen, failed, later, List.append_assoc]

/-- The steps of two programs in a row are run as two runs in a row. -/
theorem Processor.runSteps_append (processor : Processor) (first second : List (Step Float)) :
    processor.runSteps (first ++ second) =
      (processor.runSteps first).andThen fun reached => reached.runSteps second := by
  induction first generalizing processor with
  | nil => simp [Processor.runSteps, Run.andThen]
  | cons step rest ih =>
      rw [List.cons_append, Processor.runSteps_cons, Processor.runSteps_cons, Run.andThen_assoc]
      congr 1
      funext reached
      exact ih reached

/-- The record of a step that succeeds comes before the records of the rest. -/
theorem Processor.records_runSteps_cons {processor after : Processor} {step : Step Float}
    {record? : Option Record}
    (executed : (Processor.execute step.instruction).on processor = (.ok record?, after))
    (rest : List (Step Float)) :
    (processor.runSteps (step :: rest)).records =
      record?.toList ++ (after.runSteps rest).records := by
  rw [Processor.runSteps_cons, Processor.step_ok executed, Run.records_andThen_of_none rfl]
  cases record? <;> rfl

/-- A step that succeeds comes before everything that the rest of the program completes. -/
theorem Run.Completes.cons {processor after : Processor} {step : Step Float}
    {record? : Option Record} {rest : List (Step Float)}
    (executed : (Processor.execute step.instruction).on processor = (.ok record?, after))
    (completes : (after.runSteps rest).Completes after rest) :
    (processor.runSteps (step :: rest)).Completes processor (step :: rest) := by
  have first := Processor.step_ok executed
  have fold := Processor.fold_cons processor step rest
  rw [executed] at fold
  constructor
  · simp only [Processor.runSteps_cons, first, Run.andThen, completes.succeeded]
  · simp only [Processor.runSteps_cons, first, Run.andThen, completes.reached, fold]
  · rw [Processor.records_runSteps_cons executed, completes.records, fold]

/-- A step that succeeds moves the position at which the rest of the program stops. -/
theorem Run.StopsAt.cons {processor after : Processor} {step : Step Float}
    {record? : Option Record} {rest : List (Step Float)} {position : Nat}
    (executed : (Processor.execute step.instruction).on processor = (.ok record?, after))
    (stops : (after.runSteps rest).StopsAt after rest position) :
    (processor.runSteps (step :: rest)).StopsAt processor (step :: rest) (position + 1) := by
  have first := Processor.step_ok executed
  have fold (steps : List (Step Float)) := Processor.fold_cons processor step steps
  simp only [executed] at fold
  constructor
  · obtain ⟨failing, error, found, met, failed, context⟩ := stops.failed
    refine ⟨failing, error, found, ?_, ?_, ?_⟩
    · rw [Processor.errorAt?_succ executed, met]
    · simp only [Processor.runSteps_cons, first, Run.andThen, failed]
    · simpa only [Processor.runSteps_cons, first, Run.andThen, failed] using context
  · simp only [Processor.runSteps_cons, first, Run.andThen, stops.reached, List.take_succ_cons,
      fold]
  · simp only [Processor.runSteps_cons, first, Run.andThen, List.take_succ_cons, fold,
      stops.unchanged]
  · rw [Processor.records_runSteps_cons executed, stops.records, List.take_succ_cons, fold]

/-- A first step that fails stops the run before it has done anything. -/
theorem Run.StopsAt.first {processor after : Processor} {step : Step Float}
    {error : RegisterError}
    (executed : (Processor.execute step.instruction).on processor = (.error error, after))
    (rest : List (Step Float)) :
    (processor.runSteps (step :: rest)).StopsAt processor (step :: rest) 0 := by
  have run : processor.runSteps (step :: rest) =
      ⟨processor, [.trace (.attempted step)], some ⟨step, error⟩⟩ := by
    rw [Processor.runSteps_cons, Processor.step_error executed]
    rfl
  have kept := Processor.execute_atomic step.instruction processor error (by rw [executed])
  rw [run]
  constructor
  · refine ⟨step, error, rfl, ?_, rfl, rfl⟩
    rw [Processor.errorAt?_zero, executed]
  · rfl
  · rw [List.take_succ_cons, List.take_zero, Processor.fold_cons]
    rw [executed] at kept ⊢
    exact kept
  · rfl

/-- The recursion over the steps stops where the search finds the first failure. -/
theorem Processor.runSteps_prefix (processor : Processor) (steps : List (Step Float)) :
    match processor.firstFailure? steps with
    | none => (processor.runSteps steps).Completes processor steps
    | some position => (processor.runSteps steps).StopsAt processor steps position := by
  induction steps generalizing processor with
  | nil => exact ⟨rfl, rfl, rfl⟩
  | cons step rest ih =>
      rw [Processor.firstFailure?_cons]
      rcases executed : (Processor.execute step.instruction).on processor with
        ⟨error | record?, after⟩
      · exact Run.StopsAt.first executed rest
      · have later := ih after
        cases found : after.firstFailure? rest with
        | none =>
            rw [found] at later
            simp only [found, Option.map_none]
            exact Run.Completes.cons executed later
        | some position =>
            rw [found] at later
            simp only [found, Option.map_some]
            exact Run.StopsAt.cons executed later

/-- The end of a run is traced, and a trace is no record. -/
theorem Processor.run_agrees (processor : Processor) (program : Program Float) :
    (processor.run program).Agrees (processor.runSteps program) := by
  cases failed : (processor.runSteps program).failure? with
  | some failure => constructor <;> simp only [Processor.run, failed]
  | none =>
      constructor <;> simp only [Processor.run, failed, Run.records, List.filterMap_append]
      exact List.append_nil _

theorem Run.Agrees.symm {first second : Run} (agrees : first.Agrees second) :
    second.Agrees first :=
  ⟨agrees.processor.symm, agrees.records.symm, agrees.failure?.symm⟩

theorem Run.Agrees.trans {first second third : Run} (left : first.Agrees second)
    (right : second.Agrees third) : first.Agrees third :=
  ⟨left.processor.trans right.processor, left.records.trans right.records,
    left.failure?.trans right.failure?⟩

/-- Runs in a row agree if the first runs and all the second runs do. -/
theorem Run.Agrees.andThen {first second : Run} (agrees : first.Agrees second)
    {next other : Processor → Run} (later : ∀ reached, (next reached).Agrees (other reached)) :
    (first.andThen next).Agrees (second.andThen other) := by
  cases failed : first.failure? with
  | some failure =>
      rw [Run.andThen_of_some failed, Run.andThen_of_some (agrees.failure?.symm.trans failed)]
      exact agrees
  | none =>
      have succeeded := agrees.failure?.symm.trans failed
      have continued := later second.processor
      constructor
      · simp only [Run.andThen, failed, succeeded, agrees.processor, continued.processor]
      · rw [Run.records_andThen_of_none failed, Run.records_andThen_of_none succeeded,
          agrees.records, agrees.processor, continued.records]
      · simp only [Run.andThen, failed, succeeded, agrees.processor, continued.failure?]

/-- A user who does not read the traces cannot tell one run of two programs from two runs. -/
theorem Processor.run_append (processor : Processor) (first second : Program Float) :
    (processor.run (first ++ second)).Agrees
      ((processor.run first).andThen fun reached => reached.run second) := by
  apply (processor.run_agrees (first ++ second)).trans
  rw [Processor.runSteps_append]
  exact (processor.run_agrees first).symm.andThen fun reached => (reached.run_agrees second).symm

/-- The error at a position does not depend on the steps after it. -/
theorem Processor.errorAt?_take (processor : Processor) (program : Program Float)
    (position : Nat) :
    processor.errorAt? (program.take (position + 1)) position =
      processor.errorAt? program position := by
  simp only [Processor.errorAt?, List.take_take, Nat.min_eq_left (Nat.le_succ position),
    List.getElem?_take_of_lt (Nat.lt_succ_self position)]

/-- The steps up to an error cannot all be run. -/
theorem Processor.exists_failure_of_errorAt? {processor : Processor} {program : Program Float}
    {position : Nat} {error : RegisterError} (inside : position < program.length)
    (met : processor.errorAt? program position = some error) :
    ∃ failure, (processor.runSteps program).failure? = some failure := by
  have outcome := processor.runSteps_prefix program
  cases found : processor.firstFailure? program with
  | none =>
      have silent := List.find?_eq_none.mp found position (List.mem_range.mpr inside)
      rw [met] at silent
      exact absurd rfl silent
  | some first =>
      rw [found] at outcome
      obtain ⟨step, other, _, _, failed, _⟩ := outcome.failed
      exact ⟨⟨step, other⟩, failed⟩

/-- What comes after the step at which a run stops is never looked at. -/
theorem Processor.runSteps_take_append {processor : Processor} {program : Program Float}
    {position : Nat} (stops : (processor.runSteps program).StopsAt processor program position)
    (later : Program Float) :
    processor.runSteps (program.take (position + 1) ++ later) = processor.runSteps program := by
  obtain ⟨step, error, found, met, _, _⟩ := stops.failed
  have inside : position < (program.take (position + 1)).length := by
    have := (List.getElem?_eq_some_iff.mp found).1
    simp only [List.length_take]
    omega
  obtain ⟨failure, failed⟩ := Processor.exists_failure_of_errorAt? inside
    ((processor.errorAt?_take program position).trans met)
  have ended (rest : Program Float) :
      processor.runSteps (program.take (position + 1) ++ rest) =
        processor.runSteps (program.take (position + 1)) := by
    rw [Processor.runSteps_append, Run.andThen_of_some failed]
  calc processor.runSteps (program.take (position + 1) ++ later)
      = processor.runSteps (program.take (position + 1)) := ended later
    _ = processor.runSteps (program.take (position + 1) ++ program.drop (position + 1)) :=
        (ended _).symm
    _ = processor.runSteps program := by rw [List.take_append_drop]

/-- A run stops when its steps stop, and only its traces tell how it came to its end. -/
theorem Run.StopsAt.of_agrees {first second : Run} {processor : Processor}
    {program : Program Float} {position : Nat} (agrees : first.Agrees second)
    (stops : second.StopsAt processor program position) :
    first.StopsAt processor program position := by
  constructor
  · rw [agrees.failure?]
    exact stops.failed
  · rw [agrees.processor, stops.reached]
  · rw [agrees.processor, stops.unchanged]
  · rw [agrees.records, stops.records]

/-- A run completes its program, or it stops at the first failure as if the program ended there.
The records follow those that the buffer already holds, and two programs in a row are two runs. -/
theorem Processor.run_eq_prefix (processor : Processor) (program : Program Float)
    (buffer : Buffer) :
    (match processor.firstFailure? program with
      | none => (processor.run program).Completes processor program
      | some position => (processor.run program).StopsAt processor program position ∧
          ∀ later, processor.run (program.take (position + 1) ++ later) =
            processor.run program) ∧
    (Sink.write buffer (processor.run program).events).records =
      buffer.records ++ (processor.run program).records ∧
    ∀ second, (processor.run (program ++ second)).Agrees
      ((processor.run program).andThen fun reached => reached.run second) := by
  have agrees := processor.run_agrees program
  refine ⟨?_, rfl, ?_⟩
  · have outcome := processor.runSteps_prefix program
    cases found : processor.firstFailure? program with
    | none =>
        rw [found] at outcome
        exact ⟨agrees.failure?.trans outcome.succeeded, agrees.processor.trans outcome.reached,
          agrees.records.trans outcome.records⟩
    | some position =>
        rw [found] at outcome
        refine ⟨outcome.of_agrees agrees, ?_⟩
        intro later
        obtain ⟨step, error, _, _, failed, _⟩ := outcome.failed
        have same := Processor.runSteps_take_append outcome later
        simp only [Processor.run, same, failed]
  · intro second
    apply (processor.run_agrees (program ++ second)).trans
    rw [Processor.runSteps_append]
    exact agrees.symm.andThen fun reached => (reached.run_agrees second).symm

end RegisterMachine
