/-
This file proves that two sources in a row make one machine out of two.
Nothing is carried over from one line to the next but the count of lines.
-/

import RegisterMachine.Machine
import RegisterMachine.Proofs.Execution.Prefix
import RegisterMachine.Proofs.Source.Concatenation
import RegisterMachine.Proofs.Source.Layout

namespace RegisterMachine

/-- The records of reading a source come before those of assembling its tokens. -/
def Source.readRecords (source : String) : List Record :=
  (Source.events source).filterMap Event.record?

def Source.assemblyRecords (source : String) : List Record :=
  (Assembly.eventsOf (Source.tokens source)).filterMap Event.record?

/-- The report on a line has everything that is found there and everything that is made of it. -/
structure Source.LineReport where
  tokens : List Token
  errors : List LexicalError
  rejections : List AssemblyError
  steps : Program Float

/-- This function selects what a source holds under the number of a line. -/
def Source.reportOn (source : String) (line : Nat) : Source.LineReport where
  tokens := (Source.tokens source).filter fun token => token.line = line
  errors := (Source.errors source).filter fun error => error.line = line
  rejections := (AssemblyError.ofTokens (Source.tokens source)).filter fun error =>
    error.line = line
  steps := (Program.ofSource source).filter fun step => step.line = line

theorem Program.ofTokens_append (first second : List Token) :
    Program.ofTokens (first ++ second) = Program.ofTokens first ++ Program.ofTokens second :=
  List.filterMap_append

theorem Program.ofTokens_shift (count : Nat) (tokens : List Token) :
    Program.ofTokens (tokens.map (Token.shift count)) =
      (Program.ofTokens tokens).map (Step.shift count) := by
  rw [Program.ofTokens, Program.ofTokens, List.filterMap_map, List.map_filterMap]
  congr 1
  funext token
  rw [Function.comp_apply, Assembly.ofToken_shift]
  cases Assembly.ofToken token <;> rfl

/-- The steps of the second source follow, on later lines. -/
theorem Program.ofSource_joined {first second : String}
    (ended : first.toList.getLast? = some '\n') (nonempty : second ≠ "") :
    Program.ofSource (first ++ second) = Program.ofSource first ++
      (Program.ofSource second).map (Step.shift (first.toList.count '\n')) := by
  rw [Program.ofSource, Source.tokens_append ended nonempty, Program.ofTokens_append,
    Program.ofTokens_shift, Program.evaluate, List.map_append, Program.ofSource, Program.ofSource,
    Program.evaluate, Program.evaluate, List.map_map, List.map_map]
  rfl

theorem Source.readRecords_append {first second : String}
    (ended : first.toList.getLast? = some '\n') (nonempty : second ≠ "") :
    Source.readRecords (first ++ second) = Source.readRecords first ++
      (Source.readRecords second).map (Record.shift (first.toList.count '\n')) := by
  have moved (count : Nat) (error : LexicalError) :
      (⟨.error, (error.shift count).message⟩ : Record) =
        Record.shift count ⟨.error, error.message⟩ := by
    rw [LexicalError.message_shift]
    rfl
  simp only [Source.readRecords, Source.records_events, Source.errors_append ended nonempty,
    List.map_append, List.map_map, Function.comp_def, moved]

theorem Assembly.records_eventsOf_shift (count : Nat) (tokens : List Token) :
    (Assembly.eventsOf (tokens.map (Token.shift count))).filterMap Event.record? =
      ((Assembly.eventsOf tokens).filterMap Event.record?).map (Record.shift count) := by
  induction tokens with
  | nil => rfl
  | cons token rest ih =>
      simp only [Assembly.eventsOf, List.map_cons, List.flatMap_cons, List.filterMap_append,
        List.map_append] at ih ⊢
      rw [ih, Assembly.ofToken_shift, Assembly.records_shift]

theorem Source.assemblyRecords_append {first second : String}
    (ended : first.toList.getLast? = some '\n') (nonempty : second ≠ "") :
    Source.assemblyRecords (first ++ second) = Source.assemblyRecords first ++
      (Source.assemblyRecords second).map (Record.shift (first.toList.count '\n')) := by
  rw [Source.assemblyRecords, Source.tokens_append ended nonempty, Assembly.eventsOf,
    List.flatMap_append, List.filterMap_append]
  exact congrArg _ (Assembly.records_eventsOf_shift _ _)

theorem Source.records_buildEvents (source : String) :
    (Source.buildEvents source).filterMap Event.record? =
      Source.readRecords source ++ Source.assemblyRecords source := by
  rw [Source.buildEvents, List.filterMap_append, List.filterMap_append]
  exact List.append_nil _

/-- Every error of a result is about the given line. -/
def Blames {Value : Type} (line : Nat) (result : Except AssemblyError Value) : Prop :=
  ∀ error, result = .error error → error.line = line

theorem blames_ok {Value : Type} (line : Nat) (value : Value) : Blames line (.ok value) := by
  intro error failed
  cases failed

theorem Blames.bind {Value Next : Type} {line : Nat} {first : Except AssemblyError Value}
    {next : Value → Except AssemblyError Next} (blames : Blames line first)
    (later : ∀ value, Blames line (next value)) : Blames line (first >>= next) := by
  cases first with
  | error error => exact fun other failed => blames other (by cases failed; rfl)
  | ok value => exact later value

theorem Argument.blames_asRegister (line : Nat) (argument : Argument) :
    Blames line (argument.asRegister line) := by
  intro error failed
  rw [Argument.asRegister] at failed
  split at failed <;> cases failed
  rfl

theorem Argument.blames_asLiteral (line : Nat) (argument : Argument) :
    Blames line (argument.asLiteral line) := by
  intro error failed
  rw [Argument.asLiteral] at failed
  split at failed
  · split at failed <;> cases failed
    rfl
  · cases failed
    rfl

theorem Argument.blames_asOperand (line : Nat) (argument : Argument) :
    Blames line (argument.asOperand line) := by
  intro error failed
  rw [Argument.asOperand] at failed
  split at failed
  · cases failed
  · cases read : argument.asLiteral line with
    | ok literal =>
        rw [read] at failed
        cases failed
    | error other =>
        rw [read] at failed
        cases failed
        exact Argument.blames_asLiteral line argument error read
  · cases failed
    rfl
  · cases failed
    rfl

theorem blames_assembleComparison (line : Nat) (comparison : Comparison)
    (first second : Argument) : Blames line (assembleComparison line comparison first second) :=
  (first.blames_asOperand line).bind fun _ =>
    (second.blames_asOperand line).bind fun _ => blames_ok line _

/-- An instruction that cannot be made of a token is refused on the line of the token. -/
theorem Token.blames_instruction? (token : Token) :
    ∀ made ∈ token.instruction?, Blames token.line made := by
  obtain ⟨line, opcode, arguments⟩ := token
  intro made found
  cases opcode with
  | increment | decrement =>
      rcases arguments with _ | ⟨first, rest⟩ <;> cases found
      exact (first.blames_asRegister line).bind fun _ => blames_ok line _
  | out =>
      rcases arguments with _ | ⟨first, rest⟩ <;> cases found
      exact blames_ok line _
  | load =>
      rcases arguments with _ | ⟨first, _ | ⟨second, rest⟩⟩ <;> cases found
      exact (first.blames_asRegister line).bind fun _ =>
        (second.blames_asLiteral line).bind fun _ => blames_ok line _
  | move =>
      rcases arguments with _ | ⟨first, _ | ⟨second, rest⟩⟩ <;> cases found
      exact (first.blames_asRegister line).bind fun _ =>
        (second.blames_asRegister line).bind fun _ => blames_ok line _
  | add | subtract =>
      rcases arguments with _ | ⟨first, _ | ⟨second, rest⟩⟩ <;> cases found
      exact (first.blames_asRegister line).bind fun _ =>
        (second.blames_asOperand line).bind fun _ => blames_ok line _
  | greaterThan | lessThan | equals =>
      rcases arguments with _ | ⟨first, _ | ⟨second, rest⟩⟩ <;> cases found
      exact blames_assembleComparison line _ first second

/-- The outcome of a token stands on the line of the token. -/
theorem Assembly.line_of_ofToken (token : Token) :
    (∀ error ∈ (Assembly.ofToken token).error?, error.line = token.line) ∧
      ∀ step ∈ (Assembly.ofToken token).step?, step.line = token.line := by
  cases made : token.instruction? with
  | none => simp [Assembly.ofToken, made, Assembly.error?, Assembly.step?]
  | some outcome =>
      have blames := token.blames_instruction? outcome made
      cases outcome with
      | error error =>
          simpa [Assembly.ofToken, made, Assembly.error?, Assembly.step?] using blames error rfl
      | ok instruction => simp [Assembly.ofToken, made, Assembly.error?, Assembly.step?]

/-- What is made of the tokens of a line has the number of the line, and nothing else has it. -/
theorem filter_filterMap_tokens {Item : Type} {make : Token → Option Item} {position : Item → Nat}
    (own : ∀ token, ∀ item ∈ make token, position item = token.line) (tokens : List Token)
    (line : Nat) :
    (tokens.filterMap make).filter (fun item => position item = line) =
      (tokens.filter fun token => token.line = line).filterMap make := by
  rw [List.filter_filterMap, List.filterMap_filter]
  congr 1
  funext token
  cases made : make token with
  | none => simp
  | some item =>
      have same := own token item made
      by_cases here : token.line = line <;> simp [same, here]

/-- A report is made of the text of its line and of the number of the line. -/
theorem Source.reportOn_eq_of_line {source other : String} (nonempty : source ≠ "")
    (otherNonempty : other ≠ "") {index : Nat}
    (same : (Text.lines source.toList)[index]? = (Text.lines other.toList)[index]?) :
    Source.reportOn source (index + 1) = Source.reportOn other (index + 1) := by
  have tokens : (Source.tokens source).filter (fun token => token.line = index + 1) =
      (Source.tokens other).filter fun token => token.line = index + 1 := by
    rw [Source.filter_tokens nonempty, Source.filter_tokens otherNonempty, same]
  have errors : (Source.errors source).filter (fun error => error.line = index + 1) =
      (Source.errors other).filter fun error => error.line = index + 1 := by
    rw [Source.filter_errors nonempty, Source.filter_errors otherNonempty, same]
  have rejections := filter_filterMap_tokens fun token => (Assembly.line_of_ofToken token).1
  have assembled := filter_filterMap_tokens fun token => (Assembly.line_of_ofToken token).2
  have steps (tokens : List Token) : (Program.evaluate (Program.ofTokens tokens)).filter
      (fun step => step.line = index + 1) = Program.evaluate
        (Program.ofTokens (tokens.filter fun token => token.line = index + 1)) := by
    rw [Program.evaluate, List.filter_map, Program.ofTokens, Program.ofTokens, ← assembled]
    rfl
  simp only [Source.reportOn, AssemblyError.ofTokens, rejections, Program.ofSource, steps, tokens,
    errors]

/-- A source that ends its last line can be continued, and each part is read, assembled and run
as if it stood alone.  Only the lines of the second part are counted from the end of the first,
and what is reported of a line is the same in all sources that have the line in its place. -/
theorem Machine.ofSource_append (first second : String)
    (ended : first.toList.getLast? = some '\n') (nonempty : second ≠ "") (buffer : Buffer) :
    Source.tokens (first ++ second) = Source.tokens first ++
        (Source.tokens second).map (Token.shift (first.toList.count '\n')) ∧
      Source.errors (first ++ second) = Source.errors first ++
        (Source.errors second).map (LexicalError.shift (first.toList.count '\n')) ∧
      (Machine.ofSource (first ++ second) buffer).program =
        (Machine.ofSource first buffer).program ++
          (Machine.ofSource second buffer).program.map
            (Step.shift (first.toList.count '\n')) ∧
      (Machine.ofSource (first ++ second) buffer).sink.records = buffer.records ++
        (Source.readRecords first ++
          (Source.readRecords second).map (Record.shift (first.toList.count '\n')) ++
          Source.assemblyRecords first ++
          (Source.assemblyRecords second).map (Record.shift (first.toList.count '\n'))) ∧
      (∀ processor : Processor,
        (processor.run (Machine.ofSource (first ++ second) buffer).program).Agrees
          ((processor.run (Machine.ofSource first buffer).program).andThen fun reached =>
            reached.run ((Machine.ofSource second buffer).program.map
              (Step.shift (first.toList.count '\n'))))) ∧
      ∀ (source other : String) (index : Nat), source ≠ "" → other ≠ "" →
        (Text.lines source.toList)[index]? = (Text.lines other.toList)[index]? →
        Source.reportOn source (index + 1) = Source.reportOn other (index + 1) := by
  have program := Program.ofSource_joined ended nonempty
  refine ⟨Source.tokens_append ended nonempty, Source.errors_append ended nonempty, program,
    ?_, ?_, ?_⟩
  · rw [Machine.ofSource, Buffer.records_write, Source.records_buildEvents,
      Source.readRecords_append ended nonempty, Source.assemblyRecords_append ended nonempty,
      List.append_assoc (_ ++ _)]
  · intro processor
    change (processor.run (Program.ofSource (first ++ second))).Agrees _
    rw [program]
    exact processor.run_append _ _
  · intro source other index occupied otherOccupied same
    exact Source.reportOn_eq_of_line occupied otherOccupied same

/-- The first sample has a carriage return, an unknown opcode and a token that is skipped. -/
def Source.firstSample : String :=
  "lod $a, !1\r\nfoo $a\nadd $a\n"

/-- The second sample has an invalid argument, a rejected token and an unknown register. -/
def Source.secondSample : String :=
  "inc #b\ninc !9\nmov $a, $q\nout $a"

theorem Machine.ofSource_append_sample :
    Source.firstSample.toList.getLast? = some '\n' ∧ Source.secondSample ≠ "" ∧
      (Machine.ofSource (Source.firstSample ++ Source.secondSample) Buffer.empty).sink.records.map
          Record.message =
        ["[ln: 2] unknown opcode - `foo`", "[ln: 4] invalid argument - `#b`",
          "[ln: 5] expected a register - `!9`"] ∧
      ((Processor.start false).run (Machine.ofSource
          (Source.firstSample ++ Source.secondSample) Buffer.empty).program).failure?.map
          Failure.context =
        some "Failed to execute `mov $a, $q` on line 6" := by
  have ended : Source.firstSample.toList.getLast? = some '\n' := by decide +kernel
  have nonempty : Source.secondSample ≠ "" := by decide
  obtain ⟨_, _, _, records, run, _⟩ :=
    Machine.ofSource_append Source.firstSample Source.secondSample ended nonempty Buffer.empty
  refine ⟨ended, nonempty, ?_, ?_⟩
  · rw [records]
    decide +kernel
  · rw [(run (Processor.start false)).failure?]
    decide +kernel

end RegisterMachine
