/-
This file defines the layouts that a line of source may have, and proves that each is read.
A layout chooses blanks and comments freely, and the reading of its line forgets these choices.
-/

import Mathlib.Data.List.ReduceOption
import RegisterMachine.Proofs.Source.Line
import RegisterMachine.Sink

namespace RegisterMachine

/-- A gap is a stretch of blanks within one line. -/
structure Gap where
  text : List Char
  blank : ∀ char ∈ text, Text.isBlank char = true
  within : '\n' ∉ text

/-- The narrow gap is one space. -/
def Gap.space : Gap :=
  ⟨[' '], by decide, by decide⟩

/-- The empty gap has no width. -/
def Gap.none : Gap :=
  ⟨[], by decide, by decide⟩

/-- A remark is any text behind a semicolon, up to the end of its line. -/
structure Remark where
  text : List Char
  within : '\n' ∉ text

/-- A piece is blank or holds one argument between two gaps. -/
inductive Layout.Piece where
  | blank (gap : Gap)
  | spelled (before : Gap) (argument : Argument) (onLine : argument.OnLine) (after : Gap)

/-- A line is blank, a comment, or the code of one token with or without a comment. -/
inductive Layout where
  | blank (gap : Gap)
  | comment (indent : Gap) (remark : Remark)
  | code (indent : Gap) (opcode : Opcode) (pieces : List Layout.Piece) (remark? : Option Remark)

/-- The text of a remark includes its semicolon. -/
def Remark.comment (remark : Remark) : List Char :=
  ';' :: remark.text

def Layout.Piece.text : Layout.Piece → List Char
  | .blank gap => gap.text
  | .spelled before argument _ after => before.text ++ argument.display.toList ++ after.text

def Layout.Piece.argument? : Layout.Piece → Option Argument
  | .blank _ => none
  | .spelled _ argument _ _ => some argument

/-- The pieces of a line stand between commas. -/
def Layout.Piece.joined (pieces : List Layout.Piece) : List Char :=
  [','].intercalate (pieces.map Layout.Piece.text)

/-- The text of a layout is one line of source. -/
def Layout.text : Layout → List Char
  | .blank gap => gap.text
  | .comment indent remark => indent.text ++ remark.comment
  | .code indent opcode pieces remark? =>
      indent.text ++ (opcode.mnemonic.toList ++
        (Layout.Piece.joined pieces ++ (remark?.map Remark.comment).getD []))

/-- Only a line with code holds a token, and its arguments are those of its pieces. -/
def Layout.token? (line : Nat) : Layout → Option Token
  | .blank _ | .comment _ _ => none
  | .code _ opcode pieces _ => some ⟨line, opcode, pieces.filterMap Layout.Piece.argument?⟩

/-- The source of a list of layouts joins their lines. -/
def Layout.source (layouts : List Layout) : String :=
  String.ofList (['\n'].intercalate (layouts.map Layout.text))

/-- The tokens of a list of layouts carry the numbers of their lines. -/
def Layout.tokens (layouts : List Layout) : List Token :=
  (layouts.mapIdx fun index layout => layout.token? (index + 1)).reduceOption

theorem Layout.Piece.separated_text (piece : Layout.Piece) :
    ∀ char ∈ piece.text, char ≠ ',' ∧ char ≠ ';' ∧ char ≠ '\n' := by
  have gapSeparated (gap : Gap) (char : Char) (member : char ∈ gap.text) :
      char ≠ ',' ∧ char ≠ ';' ∧ char ≠ '\n' := by
    have blank := gap.blank char member
    refine ⟨?_, ?_, ?_⟩
    · rintro rfl
      exact absurd blank (by decide)
    · rintro rfl
      exact absurd blank (by decide)
    · rintro rfl
      exact gap.within member
  intro char member
  cases piece with
  | blank gap => exact gapSeparated gap char member
  | spelled before argument onLine after =>
      simp only [Layout.Piece.text, List.mem_append] at member
      rcases member with (left | inside) | right
      · exact gapSeparated before char left
      · exact onLine.separated_display char inside
      · exact gapSeparated after char right

/-- Trimming leaves the display of the argument, or nothing. -/
theorem Layout.Piece.trim_text (piece : Layout.Piece) :
    Text.trim piece.text = (piece.argument?.map (·.display.toList)).getD [] := by
  cases piece with
  | blank gap => exact Text.trim_of_blank gap.blank
  | spelled before argument onLine after =>
      exact (Text.trim_surrounded before.blank after.blank _).trans
        (Text.trim_of_tight onLine.tight_display)

theorem Layout.Piece.filter_trim (pieces : List Layout.Piece) :
    ((pieces.map Layout.Piece.text).map Text.trim).filter (· ≠ []) =
      (pieces.filterMap Layout.Piece.argument?).map (·.display.toList) := by
  induction pieces with
  | nil => rfl
  | cons piece rest ih =>
      have trimmed := piece.trim_text
      cases found : piece.argument? with
      | none =>
          rw [found] at trimmed
          simpa [trimmed, found] using ih
      | some argument =>
          have nonempty : argument.display.toList ≠ [] := by
            rw [Argument.toList_display]
            exact List.cons_ne_nil _ _
          rw [found] at trimmed
          simpa [trimmed, found, nonempty] using ih

theorem Layout.Piece.mem_joined {pieces : List Layout.Piece} {char : Char}
    (member : char ∈ Layout.Piece.joined pieces) : char ≠ ';' ∧ char ≠ '\n' := by
  rcases mem_intercalate member with comma | ⟨part, among, inside⟩
  · rw [List.mem_singleton.mp comma]
    decide
  · obtain ⟨piece, _, rfl⟩ := List.mem_map.mp among
    exact (piece.separated_text char inside).2

/-- The pieces are found between the commas before the comment. -/
theorem Layout.Piece.argumentPieces_joined (pieces : List Layout.Piece)
    (remark? : Option Remark) :
    argumentPieces (Layout.Piece.joined pieces ++ (remark?.map Remark.comment).getD []) =
      (pieces.filterMap Layout.Piece.argument?).map (·.display.toList) := by
  have code : (Layout.Piece.joined pieces ++ (remark?.map Remark.comment).getD []).takeWhile
      (· != ';') = Layout.Piece.joined pieces := by
    rw [List.takeWhile_append_of_pos]
    · cases remark? <;> simp [Remark.comment]
    · intro char member
      simpa using (Layout.Piece.mem_joined member).1
  rw [argumentPieces, code, ← Layout.Piece.filter_trim]
  cases pieces with
  | nil => rfl
  | cons piece rest =>
      rw [Layout.Piece.joined, List.splitOn_intercalate]
      · intro text member comma
        obtain ⟨origin, _, rfl⟩ := List.mem_map.mp member
        exact (origin.separated_text ',' comma).1 rfl
      · exact List.cons_ne_nil _ _

theorem Layout.newline_not_mem_text (layout : Layout) : '\n' ∉ layout.text := by
  intro member
  cases layout with
  | blank gap => exact gap.within member
  | comment indent remark =>
      rcases List.mem_append.mp member with gap | behind
      · exact indent.within gap
      · rcases List.mem_cons.mp behind with semicolon | inside
        · cases semicolon
        · exact remark.within inside
  | code indent opcode pieces remark? =>
      rcases List.mem_append.mp member with gap | rest
      · exact indent.within gap
      rcases List.mem_append.mp rest with word | arguments
      · revert word
        cases opcode <;> decide
      rcases List.mem_append.mp arguments with inside | behind
      · exact (Layout.Piece.mem_joined inside).2 rfl
      · cases remark? with
        | none => cases behind
        | some remark =>
            rcases List.mem_cons.mp behind with semicolon | inside
            · cases semicolon
            · exact remark.within inside

/-- The code of a line starts with its mnemonic, whatever follows. -/
theorem Reading.ofLine_of_mnemonic {line : Nat} {text rest : List Char} {opcode : Opcode}
    (code : lineCode text = opcode.mnemonic.toList ++ rest) :
    Reading.ofLine line text = Reading.ofCode line (opcode.mnemonic.toList ++ rest) := by
  obtain ⟨first, second, third, spelled, letter⟩ : ∃ first second third,
      opcode.mnemonic.toList = [first, second, third] ∧ first ≠ ';' := by
    cases opcode <;> exact ⟨_, _, _, rfl, by decide⟩
  rw [spelled] at code ⊢
  exact Reading.ofLine_of_code code letter

theorem Reading.ofCode_of_mnemonic (line : Nat) (opcode : Opcode) (rest : List Char) :
    Reading.ofCode line (opcode.mnemonic.toList ++ rest) =
      ⟨((argumentPieces rest).filter fun piece => (Argument.ofPiece? piece).isNone).map
          fun piece => ⟨line, .invalidArgument (String.ofList piece)⟩,
        some ⟨line, opcode, (argumentPieces rest).filterMap Argument.ofPiece?⟩⟩ := by
  have length := opcode.length_mnemonic
  have word : (opcode.mnemonic.toList ++ rest).take 3 = opcode.mnemonic.toList :=
    List.take_left' length
  have body : (opcode.mnemonic.toList ++ rest).drop 3 = rest := List.drop_left' length
  simp only [Reading.ofCode, word, body, String.ofList_toList,
    Opcode.ofMnemonic?_eq_some_iff.mpr rfl]

/-- A layout without a backspace is read as its token, and nothing in it is refused. -/
theorem Layout.ofLine_text {layout : Layout} (noBackspace : '\x08' ∉ layout.text) (line : Nat) :
    Reading.ofLine line layout.text = ⟨[], layout.token? line⟩ := by
  have code := lineCode_of_not_mem noBackspace
  cases layout with
  | blank gap =>
      apply Reading.ofLine_of_blank
      rw [code, Layout.text, Text.trimStart, List.dropWhile_eq_nil_iff]
      exact gap.blank
  | comment indent remark =>
      rw [Layout.text, Text.trimStart_append_of_blank indent.blank] at code
      exact Reading.ofLine_of_comment code
  | code indent opcode pieces remark? =>
      have start : ∀ char ∈ (opcode.mnemonic.toList ++
          (Layout.Piece.joined pieces ++ (remark?.map Remark.comment).getD [])).head?,
          Text.isBlank char = false := by
        intro char first
        cases opcode <;> cases first <;> decide
      rw [Layout.text, Text.trimStart_append_of_blank indent.blank,
        Text.trimStart_of_start start] at code
      rw [Layout.text, Reading.ofLine_of_mnemonic code, Reading.ofCode_of_mnemonic,
        Layout.Piece.argumentPieces_joined]
      simp [Layout.token?, List.filterMap_map, List.filter_map, Function.comp_def,
        Argument.ofPiece?_display]

/-- The lines of a source are its layouts, up to carriage returns and an empty last line. -/
theorem Layout.readings_source {layouts : List Layout}
    (nonempty : Layout.source layouts ≠ "")
    (noBackspace : '\x08' ∉ (Layout.source layouts).toList) :
    ∃ dropped, (∀ reading ∈ dropped, reading = Reading.empty) ∧
      layouts.mapIdx (fun index layout => ⟨[], layout.token? (index + 1)⟩) =
        Source.readings (Layout.source layouts) ++ dropped := by
  have occupied : layouts ≠ [] := by
    rintro rfl
    exact nonempty rfl
  have parts : (Layout.source layouts).toList.splitOn '\n' = layouts.map Layout.text := by
    rw [Layout.source, String.toList_ofList, List.splitOn_intercalate]
    · intro text member
      obtain ⟨layout, _, rfl⟩ := List.mem_map.mp member
      exact layout.newline_not_mem_text
    · simpa using occupied
  have read : ∀ layout ∈ layouts, ∀ line,
      Reading.ofLine line layout.text = ⟨[], layout.token? line⟩ := by
    intro layout member line
    apply Layout.ofLine_text
    intro inside
    have among : layout.text ∈ (Layout.source layouts).toList.splitOn '\n' := by
      rw [parts]
      exact List.mem_map_of_mem member
    exact noBackspace (mem_of_mem_splitOn among _ inside).1
  obtain ⟨dropped, empty, whole⟩ := Reading.mapIdx_closeLines 1 (layouts.map Layout.text) (by
    intro index text found
    rw [List.getElem?_map, Option.map_eq_some_iff] at found
    obtain ⟨layout, present, rfl⟩ := found
    rw [read layout (List.mem_of_getElem? present)])
  refine ⟨dropped, empty, ?_⟩
  rw [Source.readings, if_neg nonempty, Text.lines, parts, ← whole, List.mapIdx_eq_iff]
  intro index
  rw [List.getElem?_mapIdx, List.getElem?_map]
  cases present : layouts[index]? with
  | none => rfl
  | some layout =>
      have same := read layout (List.mem_of_getElem? present) (index + 1)
      simp [same]

/-- Readings of empty lines hold no tokens. -/
theorem Layout.tokens_source {layouts : List Layout} (nonempty : Layout.source layouts ≠ "")
    (noBackspace : '\x08' ∉ (Layout.source layouts).toList) :
    Source.tokens (Layout.source layouts) = Layout.tokens layouts := by
  obtain ⟨dropped, empty, whole⟩ := Layout.readings_source nonempty noBackspace
  have silent : dropped.filterMap Reading.token? = [] := by
    rw [List.filterMap_eq_nil_iff]
    intro reading member
    rw [empty reading member]
    rfl
  calc Source.tokens (Layout.source layouts)
      = (Source.readings (Layout.source layouts) ++ dropped).filterMap Reading.token? := by
        rw [List.filterMap_append, silent, List.append_nil, Source.tokens]
    _ = Layout.tokens layouts := by
        rw [← whole, Layout.tokens, List.reduceOption, List.mapIdx_eq_zipIdx_map,
          List.mapIdx_eq_zipIdx_map, List.filterMap_map, List.filterMap_map]
        rfl

theorem Layout.errors_source {layouts : List Layout} (nonempty : Layout.source layouts ≠ "")
    (noBackspace : '\x08' ∉ (Layout.source layouts).toList) :
    Source.errors (Layout.source layouts) = [] := by
  obtain ⟨dropped, _, whole⟩ := Layout.readings_source nonempty noBackspace
  rw [Source.errors, List.flatMap_eq_nil_iff]
  intro reading member
  have among : reading ∈ Source.readings (Layout.source layouts) ++ dropped :=
    List.mem_append_left dropped member
  rw [← whole] at among
  obtain ⟨index, inside, rfl⟩ := List.mem_mapIdx.mp among
  rfl

/-- The records of a line are the messages of its errors, for a token is only traced. -/
theorem Reading.records_events (reading : Reading) :
    reading.events.filterMap Event.record? =
      reading.errors.map fun error => ⟨.error, error.message⟩ := by
  have traced : (reading.token?.toList.map fun token =>
      Event.trace (.tokenFound token)).filterMap Event.record? = [] := by
    cases reading.token? <;> rfl
  rw [Reading.events, List.filterMap_append, traced, List.append_nil]
  induction reading.errors with
  | nil => rfl
  | cons error rest ih =>
      rw [List.flatMap_cons, List.filterMap_append, ih]
      rfl

/-- The records of a source are the messages of its errors in the order of its lines. -/
theorem Source.records_events (source : String) :
    (Source.events source).filterMap Event.record? =
      (Source.errors source).map fun error => ⟨.error, error.message⟩ := by
  rw [Source.events, Source.errors]
  induction Source.readings source with
  | nil => rfl
  | cons reading rest ih =>
      rw [List.flatMap_cons, List.filterMap_append, ih, reading.records_events,
        List.flatMap_cons, List.map_append]

/-- Every layout of the grammar is read as its tokens, on their lines and without an error.
The output stays as it was. -/
theorem Layout.read_source (layouts : List Layout) (nonempty : Layout.source layouts ≠ "")
    (noBackspace : '\x08' ∉ (Layout.source layouts).toList) (buffer : Buffer) :
    Source.tokens (Layout.source layouts) = Layout.tokens layouts ∧
      Source.errors (Layout.source layouts) = [] ∧
      Sink.write buffer (Source.events (Layout.source layouts)) = buffer := by
  have clean := Layout.errors_source nonempty noBackspace
  refine ⟨Layout.tokens_source nonempty noBackspace, clean, ?_⟩
  obtain ⟨records⟩ := buffer
  change Buffer.mk (records ++ (Source.events (Layout.source layouts)).filterMap Event.record?) =
    ⟨records⟩
  rw [Source.records_events, clean, List.map_nil, List.append_nil]

/-- The sample mixes wide blanks, a carriage return, blank pieces, an inner quote and remarks. -/
def Layout.sample : List Layout :=
  [.comment .space ⟨[' ', 'l', 'o', 'd', ';'], by decide⟩,
    .blank ⟨['\u3000', '\r'], by decide, by decide⟩,
    .code ⟨['\t'], by decide, by decide⟩ .load
      [.spelled .space ⟨.register, " a"⟩ ⟨by decide, by decide⟩
          ⟨['\u2003'], by decide, by decide⟩,
        .blank .space,
        .spelled .none ⟨.literal, "-7"⟩ ⟨by decide, by decide⟩ .space]
      (some ⟨['o', 'n', 'e', ',', ' ', '$'], by decide⟩),
    .code .none .out
      [.spelled .space ⟨.string, "\"é\" "⟩ ⟨by decide, by decide⟩
        ⟨['\r'], by decide, by decide⟩]
      none]

theorem Layout.read_source_sample :
    Layout.source Layout.sample =
        " ; lod;\n\u3000\r\n\tlod $ a\u2003, ,!-7 ;one, $\nout \"\"é\" \"\r" ∧
      Source.tokens (Layout.source Layout.sample) =
        [⟨3, .load, [⟨.register, " a"⟩, ⟨.literal, "-7"⟩]⟩, ⟨4, .out, [⟨.string, "\"é\" "⟩]⟩] ∧
      Source.errors (Layout.source Layout.sample) = [] ∧
      Sink.write Buffer.empty (Source.events (Layout.source Layout.sample)) = Buffer.empty := by
  have nonempty : Layout.source Layout.sample ≠ "" := by decide +kernel
  have noBackspace : '\x08' ∉ (Layout.source Layout.sample).toList := by decide +kernel
  obtain ⟨tokens, errors, silent⟩ :=
    Layout.read_source Layout.sample nonempty noBackspace Buffer.empty
  exact ⟨by decide +kernel, tokens.trans (by decide +kernel), errors, silent⟩

end RegisterMachine
