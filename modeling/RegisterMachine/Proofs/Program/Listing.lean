/-
This file proves that the listing of a program is a source of the same program.
A listing shows each instruction on a line of its own, so only the line numbers change.
-/

import RegisterMachine.Machine
import RegisterMachine.Proofs.Program.Reassembly
import RegisterMachine.Proofs.Source.Display

namespace RegisterMachine
open Number

/-- The listing of a program joins the displays of its instructions. -/
def Program.listing (program : Program Float) : String :=
  "\n".intercalate (program.map fun step => step.instruction.display)

/-- The renumbered program has the same instructions on consecutive lines. -/
def Program.renumbered (program : Program Float) : Program Float :=
  program.mapIdx fun index step => ⟨index + 1, step.instruction⟩

theorem Program.listing_eq (program : Program Float) :
    program.listing = Token.listing (program.map Step.token) := by
  rw [Program.listing, Token.listing, List.map_map]
  rfl

/-- Each step of a source goes back to one of its tokens. -/
theorem Program.exists_token_of_mem_ofSource {source : String} {step : Step Float}
    (member : step ∈ Program.ofSource source) :
    ∃ token ∈ Source.tokens source, ∃ spelled, token.instruction? = some (.ok spelled) ∧
      step.instruction = spelled.map Literal.toFloat := by
  obtain ⟨assembled, among, rfl⟩ := List.mem_map.mp member
  obtain ⟨token, given, found⟩ := List.mem_filterMap.mp among
  refine ⟨token, given, assembled.instruction, ?_, rfl⟩
  rw [Assembly.ofToken] at found
  split at found
  · cases found
  · cases found
  · next instruction made =>
      cases found
      exact made

/-- What a program of a source displays can be read back. -/
theorem Program.printable_of_mem_ofSource {source : String}
    (single : ∀ line ∈ Text.lines source.toList, line.count '\x08' ≤ 1) {step : Step Float}
    (member : step ∈ Program.ofSource source)
    (integral : ∀ value ∈ step.instruction.literals, Integral value) :
    ∀ argument ∈ step.instruction.arguments, argument.Printable := by
  obtain ⟨token, given, spelled, assembled, same⟩ := Program.exists_token_of_mem_ofSource member
  rw [same] at integral ⊢
  exact Token.printable_of_instruction? (Source.printable_of_mem_tokens single given) assembled
    integral

/-- The token of an instruction on a line is assembled into a step on that line. -/
theorem Instruction.step?_token {instruction : Instruction Float}
    (integral : ∀ value ∈ instruction.literals, Integral value) (line : Nat) :
    ∃ step, Assembly.ofToken ⟨line, instruction.opcode, instruction.arguments⟩ = .assembled step ∧
      step.map Literal.toFloat = ⟨line, instruction⟩ := by
  obtain ⟨spelled, assembled, same⟩ := Instruction.instruction?_token integral line
  refine ⟨⟨line, spelled⟩, ?_, ?_⟩
  · rw [Assembly.ofToken, assembled]
  · rw [Step.map, same]

/-- The tokens of a program are assembled into it, and nothing is reported. -/
theorem Program.assemble_tokens {program : Program Float}
    (integral : ∀ step ∈ program, ∀ value ∈ step.instruction.literals, Integral value) :
    Program.evaluate (Program.ofTokens (program.map Step.token)) = program ∧
      Assembly.eventsOf (program.map Step.token) = [] := by
  induction program with
  | nil => exact ⟨rfl, rfl⟩
  | cons first rest ih =>
      obtain ⟨assembled, silent⟩ :=
        ih fun step member => integral step (List.mem_cons_of_mem first member)
      obtain ⟨step, made, same⟩ :=
        Instruction.step?_token (integral first List.mem_cons_self) first.line
      change Assembly.ofToken first.token = .assembled step at made
      constructor
      · rw [List.map_cons, Program.ofTokens, List.filterMap_cons, made]
        exact congrArg₂ List.cons same assembled
      · rw [List.map_cons, Assembly.eventsOf, List.flatMap_cons, made]
        exact silent

/-- The tokens of the lines of a listing are those of the renumbered program. -/
theorem Program.map_token_renumbered (program : Program Float) :
    (program.map Step.token).mapIdx
        (fun index token => ⟨index + 1, token.opcode, token.arguments⟩) =
      program.renumbered.map Step.token := by
  apply List.ext_getElem
  · simp [Program.renumbered]
  · intro index _ _
    simp [Program.renumbered, Step.token]

theorem Program.exists_of_mem_renumbered {program : Program Float} {step : Step Float}
    (member : step ∈ program.renumbered) :
    ∃ original ∈ program, original.instruction = step.instruction := by
  obtain ⟨index, inside, rfl⟩ := List.mem_mapIdx.mp member
  exact ⟨program[index], List.getElem_mem inside, rfl⟩

/-- Literals that spell integers within the limit have integral numbers. -/
theorem Program.integral_of_mem_evaluate {spelled : Program Literal}
    (within : ∀ step ∈ spelled, ∀ literal ∈ step.instruction.literals,
      literal.toInt.natAbs ≤ limit) :
    ∀ step ∈ Program.evaluate spelled, ∀ value ∈ step.instruction.literals, Integral value := by
  intro step member value among
  obtain ⟨original, given, rfl⟩ := List.mem_map.mp member
  rw [Step.map, Instruction.literals_map] at among
  obtain ⟨literal, inside, rfl⟩ := List.mem_map.mp among
  have small := within original given literal inside
  exact ⟨literal.toInt, Literal.denotes_toFloat small, small⟩

/-- A source is read silently if nothing of it is refused or reported. -/
theorem Source.write_buildEvents {source : String} (clean : Source.errors source = [])
    (silent : Assembly.eventsOf (Source.tokens source) = []) (buffer : Buffer) :
    Sink.write buffer (Source.buildEvents source) = buffer := by
  apply buffer.write_of_silent
  rw [Source.buildEvents, silent, List.append_nil, List.filterMap_append, Source.records_events,
    clean]
  rfl

/-- The listing of a program is a source of the same program with consecutive lines.
A machine that is built from it reports nothing. -/
theorem Machine.ofSource_listing (source : String)
    (single : ∀ line ∈ Text.lines source.toList, line.count '\x08' ≤ 1)
    (integral : ∀ step ∈ Program.ofSource source, ∀ value ∈ step.instruction.literals,
      Integral value)
    (nonempty : Program.ofSource source ≠ []) (buffer : Buffer) :
    Machine.ofSource (Program.ofSource source).listing buffer =
      ⟨(Program.ofSource source).renumbered, Processor.start false, buffer⟩ := by
  have printable : ∀ token ∈ (Program.ofSource source).map Step.token,
      ∀ argument ∈ token.arguments, argument.Printable := by
    intro token member
    obtain ⟨step, among, rfl⟩ := List.mem_map.mp member
    exact Program.printable_of_mem_ofSource single among (integral step among)
  have occupied : (Program.ofSource source).map Step.token ≠ [] := by
    simpa using nonempty
  obtain ⟨tokens, clean⟩ := Token.read_listing occupied printable
  rw [← Program.listing_eq] at tokens clean
  rw [Program.map_token_renumbered] at tokens
  have renumbered : ∀ step ∈ (Program.ofSource source).renumbered,
      ∀ value ∈ step.instruction.literals, Integral value := by
    intro step member
    obtain ⟨original, among, same⟩ := Program.exists_of_mem_renumbered member
    rw [← same]
    exact integral original among
  obtain ⟨assembled, silent⟩ := Program.assemble_tokens renumbered
  rw [← tokens] at assembled silent
  rw [Machine.ofSource, Source.write_buildEvents clean silent]
  exact congrArg (Machine.mk · (Processor.start false) buffer) assembled

/-- The sample has a backspace in a mnemonic, a negative zero, a name that starts with a blank,
an unclosed quote, the greatest literal and one that is handed out as its text. -/
def Program.sampleSource : String :=
  "lod $a,!-0x0;c\n ou\x08t \"say \"hi\"\n\n add $ b , !+9007199254740992z ,junk\r\nout ! é"

theorem Machine.ofSource_listing_sample :
    (Program.ofSource Program.sampleSource).listing =
        "lod $a, !-0\nout \"say \"hi\"\nadd $ b, !9007199254740992\nout \" é\"" ∧
      (Program.ofSource Program.sampleSource).map Step.line = [1, 2, 4, 5] ∧
      Machine.ofSource (Program.ofSource Program.sampleSource).listing Buffer.empty =
        ⟨(Program.ofSource Program.sampleSource).renumbered, Processor.start false,
          Buffer.empty⟩ := by
  have single : ∀ line ∈ Text.lines Program.sampleSource.toList, line.count '\x08' ≤ 1 := by
    decide +kernel
  have within : ∀ step ∈ Program.ofTokens (Source.tokens Program.sampleSource),
      ∀ literal ∈ step.instruction.literals, literal.toInt.natAbs ≤ limit := by
    decide +kernel
  have nonempty : Program.ofSource Program.sampleSource ≠ [] := by
    intro empty
    have length : (Program.ofSource Program.sampleSource).length = 4 := by decide +kernel
    rw [empty] at length
    cases length
  exact ⟨by decide +kernel, by decide +kernel,
    Machine.ofSource_listing Program.sampleSource single
      (Program.integral_of_mem_evaluate within) nonempty Buffer.empty⟩

end RegisterMachine
