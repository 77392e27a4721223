/-
This file accounts for every line of a source and for every piece of a line.
The account says what a line is made of and searches for nothing, and one reading alone fits it.
-/

import Mathlib.Data.List.Forall2
import RegisterMachine.Proofs.Source.Concatenation
import RegisterMachine.Proofs.Source.Layout

namespace RegisterMachine

/-- The code of a line starts behind its indent, once the first backspace is gone. -/
def HasCode (text code : List Char) : Prop :=
  ∃ indent, text.erase '\x08' = indent ++ code ∧ (∀ char ∈ indent, Text.isBlank char = true) ∧
    ∀ char ∈ code.head?, Text.isBlank char = false

/-- A text falls into parts between commas, and the first semicolon opens the remark behind them. -/
structure Separation (text : List Char) where
  parts : List (List Char)
  remark : List Char
  whole : text = [','].intercalate parts ++ remark
  nonempty : parts ≠ []
  apart : ∀ part ∈ parts, ',' ∉ part ∧ ';' ∉ part
  opened : ∀ char ∈ remark.head?, char = ';'

/-- The pieces are the trimmed parts, and a part of blanks holds no piece. -/
inductive Collects : List (List Char) → List (List Char) → Prop where
  | nil : Collects [] []
  | blank {part : List Char} {parts pieces : List (List Char)} (trimmed : Text.Trims part [])
      (rest : Collects parts pieces) : Collects (part :: parts) pieces
  | piece {part piece : List Char} {parts pieces : List (List Char)}
      (trimmed : Text.Trims part piece) (nonempty : piece ≠ []) (rest : Collects parts pieces) :
      Collects (part :: parts) (piece :: pieces)

/-- A piece spells an argument behind its sigil, and a string may lack its closing quote. -/
inductive Argument.Spells : List Char → Argument → Prop where
  | plain {kind : Argument.Kind} (noString : kind ≠ .string) (value : String) :
      Argument.Spells (kind.sigil :: value.toList) ⟨kind, value⟩
  | closed (value : String) : Argument.Spells ('"' :: (value.toList ++ ['"'])) ⟨.string, value⟩
  | unclosed (value : String) (ending : value.toList.getLast? ≠ some '"') :
      Argument.Spells ('"' :: value.toList) ⟨.string, value⟩

/-- Each piece spells an argument or starts with no sigil, and both sorts keep their order. -/
inductive Sorts : List (List Char) → List Argument → List (List Char) → Prop where
  | nil : Sorts [] [] []
  | argument {piece : List Char} {argument : Argument} {pieces invalid : List (List Char)}
      {arguments : List Argument} (spelled : Argument.Spells piece argument)
      (rest : Sorts pieces arguments invalid) :
      Sorts (piece :: pieces) (argument :: arguments) invalid
  | invalid {piece : List Char} {pieces invalid : List (List Char)} {arguments : List Argument}
      (refused : ∀ kind : Argument.Kind, piece.head? ≠ some kind.sigil)
      (rest : Sorts pieces arguments invalid) :
      Sorts (piece :: pieces) arguments (piece :: invalid)

/-- The first three characters of the code decide what is found, and short code lacks some of them. -/
inductive Reading.Accounts (line : Nat) : List Char → Reading → Prop where
  | blank : Reading.Accounts line [] ⟨[], none⟩
  | comment (remark : List Char) : Reading.Accounts line (';' :: remark) ⟨[], none⟩
  | unknown {word rest : List Char} (nonempty : word ≠ []) (noComment : word.head? ≠ some ';')
      (length : word.length = 3 ∨ word.length < 3 ∧ rest = [])
      (unknown : ∀ opcode : Opcode, word ≠ opcode.mnemonic.toList) :
      Reading.Accounts line (word ++ rest) ⟨[⟨line, .unknownOpcode (String.ofList word)⟩], none⟩
  | token (opcode : Opcode) {rest : List Char} (separation : Separation rest)
      {pieces invalid : List (List Char)} {arguments : List Argument}
      (collected : Collects separation.parts pieces) (sorted : Sorts pieces arguments invalid) :
      Reading.Accounts line (opcode.mnemonic.toList ++ rest)
        ⟨invalid.map fun piece => ⟨line, .invalidArgument (String.ofList piece)⟩,
          some ⟨line, opcode, arguments⟩⟩

/-- The readings account for the lines one by one, and the first line has the number one. -/
def Source.Accounts (source : String) (readings : List Reading) : Prop :=
  List.Forall₂ (fun numbered reading => ∃ code, HasCode numbered.1 code ∧
    Reading.Accounts (numbered.2 + 1) code reading) (Text.lines source.toList).zipIdx readings

theorem hasCode_iff {text code : List Char} : HasCode text code ↔ lineCode text = code := by
  rw [lineCode]
  constructor
  · rintro ⟨indent, whole, blank, start⟩
    rw [whole, Text.trimStart_append_of_blank blank, Text.trimStart_of_start start]
  · rintro rfl
    exact ⟨(text.erase '\x08').takeWhile Text.isBlank, List.takeWhile_append_dropWhile.symm,
      fun char member => List.mem_takeWhile_imp member, Text.start_trimStart _⟩

theorem collects_iff {parts pieces : List (List Char)} :
    Collects parts pieces ↔ (parts.map Text.trim).filter (· ≠ []) = pieces := by
  constructor
  · intro collected
    induction collected with
    | nil => rfl
    | blank trimmed rest ih => simp [Text.trims_iff.mp trimmed, ← ih]
    | piece trimmed nonempty rest ih => simp [Text.trims_iff.mp trimmed, nonempty, ← ih]
  · rintro rfl
    induction parts with
    | nil => exact .nil
    | cons part rest ih =>
        by_cases empty : Text.trim part = []
        · simpa [empty] using Collects.blank (Text.trims_iff.mpr empty) ih
        · simpa [empty] using Collects.piece (Text.trims_iff.mpr rfl) empty ih

/-- The remark is opened by the first semicolon, for no part holds one. -/
theorem Separation.parts_eq {text : List Char} (separation : Separation text) :
    separation.parts = (text.takeWhile (· != ';')).splitOn ',' := by
  obtain ⟨parts, remark, rfl, nonempty, apart, opened⟩ := separation
  have code : ∀ char ∈ [','].intercalate parts, (char != ';') = true := by
    intro char member
    rcases mem_intercalate member with comma | ⟨part, among, inside⟩
    · rw [List.mem_singleton.mp comma]
      decide
    · have other : char ≠ ';' := fun same => (apart part among).2 (same ▸ inside)
      simpa using other
  have behind : remark.takeWhile (· != ';') = [] := by
    cases remark with
    | nil => rfl
    | cons char rest =>
        have semicolon := opened char rfl
        simp [semicolon]
  rw [List.takeWhile_append_of_pos code, behind, List.append_nil,
    List.splitOn_intercalate _ (fun part among => (apart part among).1) nonempty]

def Separation.ofText (text : List Char) : Separation text where
  parts := (text.takeWhile (· != ';')).splitOn ','
  remark := text.dropWhile (· != ';')
  whole := by
    rw [List.intercalate_splitOn, List.takeWhile_append_dropWhile]
  nonempty := List.splitOn_ne_nil _ _
  apart := by
    intro part among
    have kept := mem_of_mem_splitOn among
    refine ⟨fun comma => (kept _ comma).2 rfl, fun semicolon => ?_⟩
    simpa using List.mem_takeWhile_imp (kept _ semicolon).1
  opened := by
    intro char first
    have stopped := List.head?_dropWhile_not (· != ';') text
    rw [Option.mem_def.mp first] at stopped
    simpa using stopped

theorem Argument.spells_iff {piece : List Char} {argument : Argument} :
    Argument.Spells piece argument ↔ Argument.ofPiece? piece = some argument := by
  have string : Argument.Kind.ofSigil? '"' = some .string := rfl
  constructor
  · intro spelled
    cases spelled with
    | @plain kind noString value =>
        have found := Argument.Kind.ofSigil?_eq_some_iff.mpr (rfl : kind.sigil = kind.sigil)
        cases kind <;> simp_all [Argument.ofPiece?]
    | closed value => simp [Argument.ofPiece?, string]
    | unclosed value ending => simp [Argument.ofPiece?, string, dropQuote, ending]
  · intro found
    cases piece with
    | nil => cases found
    | cons sigil body =>
        cases known : Argument.Kind.ofSigil? sigil with
        | none => simp [Argument.ofPiece?, known] at found
        | some kind =>
            obtain rfl := Argument.Kind.ofSigil?_eq_some_iff.mp known
            cases kind with
            | string =>
                simp only [Argument.ofPiece?, known, Option.some.injEq] at found
                subst found
                by_cases quoted : body.getLast? = some '"'
                · obtain ⟨value, rfl⟩ := List.getLast?_eq_some_iff.mp quoted
                  simpa [Argument.Kind.sigil] using Argument.Spells.closed (String.ofList value)
                · rw [dropQuote, if_neg quoted]
                  have ending : (String.ofList body).toList.getLast? ≠ some '"' := by
                    rwa [String.toList_ofList]
                  simpa [Argument.Kind.sigil] using
                    Argument.Spells.unclosed (String.ofList body) ending
            | register | literal | flag =>
                simp only [Argument.ofPiece?, known, Option.some.injEq] at found
                subst found
                simpa using Argument.Spells.plain (by decide) (String.ofList body)

theorem Argument.ofPiece?_eq_none_iff {piece : List Char} :
    Argument.ofPiece? piece = none ↔ ∀ kind : Argument.Kind, piece.head? ≠ some kind.sigil := by
  cases piece with
  | nil => simp [Argument.ofPiece?]
  | cons sigil body =>
      have refused : Argument.ofPiece? (sigil :: body) = none ↔
          Argument.Kind.ofSigil? sigil = none := by
        cases found : Argument.Kind.ofSigil? sigil with
        | none => simp [Argument.ofPiece?, found]
        | some kind => cases kind <;> simp [Argument.ofPiece?, found]
      rw [refused, Option.eq_none_iff_forall_ne_some]
      simp [Argument.Kind.ofSigil?_eq_some_iff]

theorem sorts_iff {pieces invalid : List (List Char)} {arguments : List Argument} :
    Sorts pieces arguments invalid ↔ pieces.filterMap Argument.ofPiece? = arguments ∧
      (pieces.filter fun piece => (Argument.ofPiece? piece).isNone) = invalid := by
  constructor
  · intro sorted
    induction sorted with
    | nil => exact ⟨rfl, rfl⟩
    | argument spelled rest ih =>
        simp [Argument.spells_iff.mp spelled, ih]
    | invalid refused rest ih =>
        simp [Argument.ofPiece?_eq_none_iff.mpr refused, ih]
  · rintro ⟨rfl, rfl⟩
    induction pieces with
    | nil => exact .nil
    | cons piece rest ih =>
        cases found : Argument.ofPiece? piece with
        | none => simpa [found] using Sorts.invalid (Argument.ofPiece?_eq_none_iff.mp found) ih
        | some argument => simpa [found] using Sorts.argument (Argument.spells_iff.mpr found) ih

theorem Opcode.ofMnemonic?_eq_none_iff {word : List Char} :
    Opcode.ofMnemonic? (String.ofList word) = none ↔
      ∀ opcode : Opcode, word ≠ opcode.mnemonic.toList := by
  have spelled (opcode : Opcode) :
      String.ofList word = opcode.mnemonic ↔ word = opcode.mnemonic.toList := by
    rw [← String.toList_inj, String.toList_ofList]
  simp only [Option.eq_none_iff_forall_ne_some, ne_eq, Opcode.ofMnemonic?_eq_some_iff, spelled]

theorem Reading.ofCode_of_unknown (line : Nat) {word rest : List Char}
    (length : word.length = 3 ∨ word.length < 3 ∧ rest = [])
    (unknown : ∀ opcode : Opcode, word ≠ opcode.mnemonic.toList) :
    Reading.ofCode line (word ++ rest) =
      ⟨[⟨line, .unknownOpcode (String.ofList word)⟩], none⟩ := by
  have taken : (word ++ rest).take 3 = word := by
    rcases length with full | ⟨short, rfl⟩
    · exact List.take_left' full
    · rw [List.append_nil, List.take_of_length_le (Nat.le_of_lt short)]
  simp only [Reading.ofCode, taken, Opcode.ofMnemonic?_eq_none_iff.mpr unknown]

/-- Code that is read as a token falls into a separation, and the sorted pieces are its own. -/
theorem Reading.ofCode_of_sorts (line : Nat) (opcode : Opcode) {rest : List Char}
    (separation : Separation rest) {pieces invalid : List (List Char)} {arguments : List Argument}
    (collected : Collects separation.parts pieces) (sorted : Sorts pieces arguments invalid) :
    Reading.ofCode line (opcode.mnemonic.toList ++ rest) =
      ⟨invalid.map fun piece => ⟨line, .invalidArgument (String.ofList piece)⟩,
        some ⟨line, opcode, arguments⟩⟩ := by
  have found : argumentPieces rest = pieces := by
    rw [argumentPieces, ← separation.parts_eq, collects_iff.mp collected]
  obtain ⟨valid, refused⟩ := sorts_iff.mp sorted
  rw [Reading.ofCode_of_mnemonic, found, valid, refused]

/-- The reading of code fits its account, for the code always falls into a word and a rest. -/
theorem Reading.accounts_ofCode (line : Nat) {code : List Char} (nonempty : code ≠ [])
    (noComment : code.head? ≠ some ';') :
    Reading.Accounts line code (Reading.ofCode line code) := by
  obtain ⟨word, rest, rfl, length⟩ : ∃ word rest, code = word ++ rest ∧
      (word.length = 3 ∨ word.length < 3 ∧ rest = []) := by
    refine ⟨code.take 3, code.drop 3, (List.take_append_drop 3 code).symm, ?_⟩
    rw [List.length_take, List.drop_eq_nil_iff]
    omega
  by_cases known : ∃ opcode : Opcode, word = opcode.mnemonic.toList
  · obtain ⟨opcode, rfl⟩ := known
    have collected : Collects (Separation.ofText rest).parts (argumentPieces rest) :=
      collects_iff.mpr rfl
    obtain ⟨arguments, invalid, sorted⟩ : ∃ arguments invalid,
        Sorts (argumentPieces rest) arguments invalid := ⟨_, _, sorts_iff.mpr ⟨rfl, rfl⟩⟩
    rw [Reading.ofCode_of_sorts line opcode (Separation.ofText rest) collected sorted]
    exact .token opcode (Separation.ofText rest) collected sorted
  · have unknown : ∀ opcode : Opcode, word ≠ opcode.mnemonic.toList :=
      fun opcode same => known ⟨opcode, same⟩
    rw [Reading.ofCode_of_unknown line length unknown]
    -- Short code has no rest, so a word without characters would be the whole code.
    have occupied : word ≠ [] := by
      rintro rfl
      rcases length with full | ⟨_, rfl⟩
      · cases full
      · exact nonempty rfl
    rw [List.head?_append_of_ne_nil _ occupied] at noComment
    exact .unknown occupied noComment length unknown

theorem Reading.accounts_iff {line : Nat} {text : List Char} {reading : Reading} :
    (∃ code, HasCode text code ∧ Reading.Accounts line code reading) ↔
      Reading.ofLine line text = reading := by
  simp only [hasCode_iff]
  constructor
  · rintro ⟨code, found, accounts⟩
    cases accounts with
    | blank => exact Reading.ofLine_of_blank found
    | comment remark => exact Reading.ofLine_of_comment found
    | @unknown word rest nonempty noComment length unknown =>
        obtain ⟨char, letters, rfl⟩ := List.exists_cons_of_ne_nil nonempty
        rw [Reading.ofLine_of_code found (by simpa using noComment)]
        exact Reading.ofCode_of_unknown line length unknown
    | token opcode separation collected sorted =>
        rw [Reading.ofLine_of_mnemonic found]
        exact Reading.ofCode_of_sorts line opcode separation collected sorted
  · rintro rfl
    refine ⟨lineCode text, rfl, ?_⟩
    cases found : lineCode text with
    | nil =>
        rw [Reading.ofLine_of_blank found]
        exact .blank
    | cons char rest =>
        by_cases comment : char = ';'
        · subst comment
          rw [Reading.ofLine_of_comment found]
          exact .comment rest
        · rw [Reading.ofLine_of_code found comment]
          exact Reading.accounts_ofCode line (List.cons_ne_nil char rest) (by simpa using comment)

theorem Reading.Accounts.cause_ne {line : Nat} {code : List Char} {reading : Reading}
    (accounts : Reading.Accounts line code reading) :
    ∀ error ∈ reading.errors, error.cause ≠ .noCode := by
  cases accounts <;> simp

theorem Source.accounts_iff {source : String} (nonempty : source ≠ "") {readings : List Reading} :
    Source.Accounts source readings ↔ Source.readings source = readings := by
  have numbered : Source.readings source = (Text.lines source.toList).zipIdx.map fun numbered =>
      Reading.ofLine (numbered.2 + 1) numbered.1 := by
    rw [Source.readings_of_ne_empty nonempty, List.mapIdx_eq_zipIdx_map]
  rw [Source.Accounts, numbered, ← List.forall₂_eq_eq_eq, List.forall₂_map_left_iff]
  simp only [Reading.accounts_iff]

/-- What is found on an earlier line comes first. -/
theorem Source.pairwise_readings {Item : Type} {items : Reading → List Item} {position : Item → Nat}
    (own : ∀ line text, ∀ item ∈ items (Reading.ofLine line text), position item = line)
    {source : String} (nonempty : source ≠ "") :
    (Source.readings source).Pairwise fun first second =>
      ∀ earlier ∈ items first, ∀ later ∈ items second, position earlier < position later := by
  rw [Source.readings_of_ne_empty nonempty, List.pairwise_iff_getElem]
  intro index next inside nextInside before earlier member later laterMember
  rw [List.getElem_mapIdx] at member laterMember
  rw [own _ _ earlier member, own _ _ later laterMember]
  exact Nat.succ_lt_succ before

theorem Source.pairwise_tokens (source : String) :
    (Source.tokens source).Pairwise fun first second => first.line < second.line := by
  by_cases nonempty : source = ""
  · subst nonempty
    exact .nil
  rw [Source.tokens, List.filterMap_eq_flatMap_toList, List.pairwise_flatMap]
  refine ⟨?_, Source.pairwise_readings (fun _ _ _ => Reading.line_of_mem_token?) nonempty⟩
  -- One line holds one token at most, so it has no two tokens to compare.
  intro reading _
  cases reading.token? <;> simp

theorem Source.pairwise_errors (source : String) :
    (Source.errors source).Pairwise fun first second => first.line ≤ second.line := by
  by_cases nonempty : source = ""
  · subst nonempty
    exact List.pairwise_singleton _ _
  have own (line : Nat) (text : List Char) := (Reading.line_of_ofLine line text).1
  rw [Source.errors, List.pairwise_flatMap]
  constructor
  · intro reading member
    obtain ⟨line, text, -, rfl⟩ := Source.exists_ofLine_of_mem_readings nonempty member
    apply List.pairwise_of_forall_mem_list
    intro first among second also
    rw [own _ _ first among, own _ _ second also]
  · apply (Source.pairwise_readings own nonempty).imp
    intro first second ordered earlier among later also
    exact Nat.le_of_lt (ordered earlier among later also)

theorem Source.cause_ne_noCode {source : String} (nonempty : source ≠ "") :
    ∀ error ∈ Source.errors source, error.cause ≠ .noCode := by
  intro error member
  obtain ⟨reading, among, found⟩ := List.mem_flatMap.mp member
  obtain ⟨line, text, -, rfl⟩ := Source.exists_ofLine_of_mem_readings nonempty among
  obtain ⟨code, -, accounts⟩ := Reading.accounts_iff.mpr (rfl : Reading.ofLine line text = _)
  exact accounts.cause_ne error found

/-- The output receives one record for each error, with its message and in its order.
Only a source without characters lacks code, and it has neither another error nor a token.
Any other source has one account of its lines, and its tokens and errors are those of the account,
so no two tokens share a line and no error comes before those of an earlier line. -/
theorem Source.readings_accounted (source : String) (buffer : Buffer) :
    (Sink.write buffer (Source.events source)).records =
        buffer.records ++ (Source.errors source).map (fun error => ⟨.error, error.message⟩) ∧
      (source = "" → Source.errors source = [⟨1, .noCode⟩] ∧ Source.tokens source = []) ∧
      (source ≠ "" → (∀ error ∈ Source.errors source, error.cause ≠ .noCode) ∧
        ∃ readings, (∀ other, Source.Accounts source other ↔ other = readings) ∧
          Source.tokens source = readings.filterMap Reading.token? ∧
          Source.errors source = readings.flatMap Reading.errors) ∧
      (Source.tokens source).Pairwise (fun first second => first.line < second.line) ∧
      (Source.errors source).Pairwise fun first second => first.line ≤ second.line := by
  refine ⟨?_, ?_, ?_, Source.pairwise_tokens source, Source.pairwise_errors source⟩
  · rw [Buffer.records_write, Source.records_events]
  · rintro rfl
    exact ⟨rfl, rfl⟩
  · intro nonempty
    refine ⟨Source.cause_ne_noCode nonempty, Source.readings source, ?_, rfl, rfl⟩
    intro other
    rw [Source.accounts_iff nonempty, eq_comm]

/-- A comma inside a remark separates nothing, and a semicolon can stand inside the first word. -/
example : Source.errors "ou;t $a\né\n out $a, #b ,\t7;, c\n" =
    [⟨1, .unknownOpcode "ou;"⟩, ⟨2, .unknownOpcode "é"⟩, ⟨3, .invalidArgument "#b"⟩,
      ⟨3, .invalidArgument "7"⟩] := by
  decide +kernel

end RegisterMachine
