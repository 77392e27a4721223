/-
This file proves that remarks behind the lines of a source add no token and no error.
Only the wording of an error can change, and only where a line is too short for an opcode.
-/

import RegisterMachine.Proofs.Source.Account
import RegisterMachine.Proofs.Source.Edit

namespace RegisterMachine

/-- Any line may get a remark behind it. -/
inductive Remarked (line : List Char) : List Char → Prop where
  | plain : Remarked line line
  | commented (remark : Remark) (bare : '\r' ∉ remark.text) :
      Remarked line (line ++ remark.comment)

/-- The kind of an error does not tell which text could not be read. -/
inductive LexicalError.Kind where
  | noCode
  | unknownOpcode
  | invalidArgument

def LexicalError.Cause.kind : LexicalError.Cause → LexicalError.Kind
  | .noCode => .noCode
  | .unknownOpcode _ => .unknownOpcode
  | .invalidArgument _ => .invalidArgument

/-- Errors resemble each other if they differ in their wording at most.
Only an unknown opcode on a line whose code is too short for any may be worded differently. -/
structure LexicalError.Resembles (lines : List (List Char)) (error other : LexicalError) :
    Prop where
  line : error.line = other.line
  kind : error.cause.kind = other.cause.kind
  message : error.message = other.message ∨
    error.cause.kind = .unknownOpcode ∧ ∃ index text, lines[index]? = some text ∧
      error.line = index + 1 ∧ (lineCode text).length < 3

/-- Readings resemble each other if they hold the same token and their errors do. -/
structure Reading.Resembles (lines : List (List Char)) (reading other : Reading) : Prop where
  token? : reading.token? = other.token?
  errors : List.Forall₂ (LexicalError.Resembles lines) reading.errors other.errors

theorem Reading.Resembles.refl (lines : List (List Char)) (reading : Reading) :
    reading.Resembles lines reading :=
  ⟨rfl, List.forall₂_same.mpr fun _ _ => ⟨rfl, rfl, .inl rfl⟩⟩

theorem Remarked.staysOnLine : Text.StaysOnLine Remarked := by
  intro line other remarked
  cases remarked with
  | plain => exact ⟨List.Sublist.refl line, fun char member => .inl member⟩
  | commented remark bare =>
      refine ⟨List.sublist_append_left line _, ?_⟩
      intro char member
      rcases List.mem_append.mp member with inside | behind
      · exact .inl inside
      refine .inr ⟨?_, ?_⟩
      · rintro rfl
        exact remark.within ((List.mem_cons.mp behind).resolve_left (by decide))
      · rintro rfl
        exact bare ((List.mem_cons.mp behind).resolve_left (by decide))

/-- The remark keeps its semicolon behind the code, even if it loses the first backspace. -/
theorem exists_lineCode_append_comment (line rest : List Char) :
    ∃ behind, lineCode (line ++ ';' :: rest) = lineCode line ++ ';' :: behind := by
  obtain ⟨behind, erased⟩ : ∃ behind,
      (line ++ ';' :: rest).erase '\x08' = line.erase '\x08' ++ ';' :: behind := by
    by_cases inside : '\x08' ∈ line
    · exact ⟨rest, List.erase_append_left _ inside⟩
    · refine ⟨rest.erase '\x08', ?_⟩
      rw [List.erase_append_right _ inside, List.erase_of_not_mem inside,
        List.erase_cons_tail (by decide)]
  refine ⟨behind, ?_⟩
  rw [lineCode_append erased]
  split
  · next blank =>
      rw [blank]
      rfl
  · rfl

/-- Code that is too short for an opcode is an error, with a remark behind it and without. -/
theorem Reading.resembles_of_short {lines : List (List Char)} {index : Nat} {text : List Char}
    (found : lines[index]? = some text) (short : (lineCode text).length < 3)
    (behind : List Char) :
    (Reading.ofCode (index + 1) (lineCode text)).Resembles lines
      (Reading.ofCode (index + 1) (lineCode text ++ ';' :: behind)) := by
  have unknown : ∀ opcode : Opcode, lineCode text ≠ opcode.mnemonic.toList := by
    intro opcode same
    rw [same, opcode.length_mnemonic] at short
    exact Nat.lt_irrefl 3 short
  have foreign (opcode : Opcode) : ';' ∉ opcode.mnemonic.toList := by
    cases opcode <;> decide
  have alone := Reading.ofCode_of_unknown (index + 1) (.inr ⟨short, rfl⟩) unknown
  rw [List.append_nil] at alone
  rw [alone, Reading.ofCode_of_foreign foreign short behind]
  refine ⟨rfl, .cons ⟨rfl, rfl, .inr ⟨rfl, ?_⟩⟩ .nil⟩
  exact ⟨index, text, found, rfl, short⟩

/-- A remark leaves a line blank, as a comment, with its token or with its unknown opcode. -/
theorem Remarked.resembles {lines : List (List Char)} {index : Nat} {line other : List Char}
    (remarked : Remarked line other) (found : line ≠ [] → lines[index]? = some line) :
    (Reading.ofLine (index + 1) line).Resembles lines (Reading.ofLine (index + 1) other) := by
  cases remarked with
  | plain => exact .refl lines _
  | commented remark =>
      obtain ⟨behind, joined⟩ := exists_lineCode_append_comment line remark.text
      change lineCode (line ++ remark.comment) = _ at joined
      cases code : lineCode line with
      | nil =>
          rw [code, List.nil_append] at joined
          rw [Reading.ofLine_of_blank code, Reading.ofLine_of_comment joined]
          exact .refl lines _
      | cons char rest =>
          rw [code, List.cons_append] at joined
          by_cases comment : char = ';'
          · subst comment
            rw [Reading.ofLine_of_comment code, Reading.ofLine_of_comment joined]
            exact .refl lines _
          rw [Reading.ofLine_of_code code comment, Reading.ofLine_of_code joined comment,
            ← List.cons_append, ← code]
          -- Behind a whole word the remark is cut off, but a short word takes in its semicolon.
          by_cases long : 3 ≤ (lineCode line).length
          · rw [Reading.ofCode_append long (argumentPieces_append_comment _ behind)]
            exact .refl lines _
          · have occupied : line ≠ [] := by
              rintro rfl
              cases code
            exact Reading.resembles_of_short (found occupied) (Nat.not_le.mp long) behind

/-- Remarks can be put behind any lines of a source that has no carriage returns.  The tokens stay
the same, and so do the errors with their order, lines and kinds.  The messages stay the same too,
except for an unknown opcode on a line whose code has fewer than three characters. -/
theorem Source.read_remarked {source other : String} (nonempty : source ≠ "")
    (bare : '\r' ∉ source.toList)
    (remarked : Text.Edited Remarked [['\n']] [[]] source.toList other.toList) :
    Source.tokens other = Source.tokens source ∧
      List.Forall₂ (LexicalError.Resembles (Text.lines source.toList)) (Source.errors source)
        (Source.errors other) := by
  have matched : Matched Reading.empty (Reading.Resembles (Text.lines source.toList))
      (Source.readings source) (Source.readings other) := by
    apply Source.matched_readings _ remarked Remarked.staysOnLine (by decide) (by decide) nonempty
      bare
    intro index line changed edited _ found
    exact edited.resembles found
  constructor
  · rw [Source.tokens_eq_flatMap, Source.tokens_eq_flatMap, eq_comm]
    apply matched.flatMap_eq rfl
    intro reading changed resembles
    rw [resembles.token?]
  · exact matched.flatMap rfl fun reading changed resembles => resembles.errors

theorem Source.read_remarked_sample :
    let source := "in\n\nlod $a,\"x,\n#"
    let remarked := "in;\x08\n; \"\nlod $a,\"x,; $b\n#"
    Source.tokens remarked = [⟨3, .load, [⟨.register, "a"⟩, ⟨.string, "x"⟩]⟩] ∧
      List.Forall₂ (LexicalError.Resembles (Text.lines source.toList))
        [⟨1, .unknownOpcode "in"⟩, ⟨4, .unknownOpcode "#"⟩] (Source.errors remarked) := by
  intro source remarked
  have text : source.toList = ['i', 'n'] ++ '\n' :: ([] ++ '\n' :: ("lod $a,\"x,".toList ++ '\n' ::
      ['#'])) := by
    decide +kernel
  have extended : remarked.toList = (['i', 'n'] ++ [';', '\x08']) ++ (['\n'] ++
      (([] ++ [';', ' ', '"']) ++ (['\n'] ++
        (("lod $a,\"x,".toList ++ [';', ' ', '$', 'b']) ++ (['\n'] ++ (['#'] ++ [])))))) := by
    decide +kernel
  have edited : Text.Edited Remarked [['\n']] [[]] source.toList remarked.toList := by
    rw [text, extended]
    apply Text.Edited.next (by decide) (.commented ⟨['\x08'], by decide⟩ (by decide)) (by decide)
    apply Text.Edited.next (by decide) (.commented ⟨[' ', '"'], by decide⟩ (by decide)) (by decide)
    apply Text.Edited.next (by decide +kernel)
      (.commented ⟨[' ', '$', 'b'], by decide⟩ (by decide)) (by decide)
    exact .last (by decide) .plain (by decide)
  obtain ⟨tokens, errors⟩ := Source.read_remarked (by decide) (by decide +kernel) edited
  have found : Source.errors source = [⟨1, .unknownOpcode "in"⟩, ⟨4, .unknownOpcode "#"⟩] := by
    decide +kernel
  rw [found] at errors
  exact ⟨tokens.trans (by decide +kernel), errors⟩

end RegisterMachine
