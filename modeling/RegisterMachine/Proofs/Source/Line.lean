/-
This file proves that the ending of a line does not change how the line is read.
A carriage return behind a line can only be missed where the line is not read without errors.
-/

import RegisterMachine.Event
import RegisterMachine.Proofs.Source.Pieces

namespace RegisterMachine

theorem lineCode_of_not_mem {text : List Char} (absent : '\x08' ∉ text) :
    lineCode text = Text.trimStart text := by
  rw [lineCode, List.erase_of_not_mem absent]

/-- What is left of the text behind a line joins its code, and alone it loses its leading blanks. -/
theorem lineCode_append {text tail behind : List Char}
    (erased : (text ++ tail).erase '\x08' = text.erase '\x08' ++ behind) :
    lineCode (text ++ tail) =
      if lineCode text = [] then Text.trimStart behind else lineCode text ++ behind := by
  rw [lineCode, lineCode, erased, Text.trimStart, Text.trimStart, List.dropWhile_append]
  simp only [List.isEmpty_iff]
  rfl

/-- A carriage return joins the code of a line that has any. -/
theorem lineCode_concat_return (text : List Char) :
    lineCode (text ++ ['\r']) =
      if lineCode text = [] then [] else lineCode text ++ ['\r'] := by
  have erased : (text ++ ['\r']).erase '\x08' = text.erase '\x08' ++ ['\r'] := by
    by_cases inside : '\x08' ∈ text
    · exact List.erase_append_left _ inside
    · rw [List.erase_append_right _ inside, List.erase_of_not_mem inside]
      rfl
  exact lineCode_append erased

theorem Reading.ofLine_of_blank {line : Nat} {text : List Char} (blank : lineCode text = []) :
    Reading.ofLine line text = Reading.empty := by
  rw [Reading.ofLine, blank]

theorem Reading.ofLine_of_comment {line : Nat} {text rest : List Char}
    (comment : lineCode text = ';' :: rest) :
    Reading.ofLine line text = Reading.empty := by
  rw [Reading.ofLine, comment]
  rfl

theorem Reading.ofLine_of_code {line : Nat} {text rest : List Char} {char : Char}
    (code : lineCode text = char :: rest) (noComment : char ≠ ';') :
    Reading.ofLine line text = Reading.ofCode line (char :: rest) := by
  rw [Reading.ofLine, code]
  split
  · next empty => cases empty
  · next other same =>
      cases same
      exact absurd rfl noComment
  · rfl

/-- Text behind the opcode that adds no piece does not change how the code is read. -/
theorem Reading.ofCode_append {code tail : List Char} (long : 3 ≤ code.length)
    (same : argumentPieces (code.drop 3 ++ tail) = argumentPieces (code.drop 3)) (line : Nat) :
    Reading.ofCode line (code ++ tail) = Reading.ofCode line code := by
  have word : (code ++ tail).take 3 = code.take 3 := List.take_append_of_le_length long
  have body : (code ++ tail).drop 3 = code.drop 3 ++ tail := List.drop_append_of_le_length long
  rw [Reading.ofCode, Reading.ofCode, word, body, same]

/-- The character behind short code joins its first word, and no mnemonic may hold it. -/
theorem Reading.ofCode_of_foreign {char : Char} {code : List Char}
    (foreign : ∀ opcode : Opcode, char ∉ opcode.mnemonic.toList) (short : code.length < 3)
    (rest : List Char) (line : Nat) :
    Reading.ofCode line (code ++ char :: rest) =
      ⟨[⟨line, .unknownOpcode (String.ofList ((code ++ char :: rest).take 3))⟩], none⟩ := by
  have inside : char ∈ (code ++ char :: rest).take 3 := by
    obtain ⟨left, places⟩ := Nat.exists_eq_add_of_lt short
    have taken : 3 - code.length = left + 1 := by omega
    rw [List.take_append, taken, List.take_succ_cons]
    exact List.mem_append_right _ List.mem_cons_self
  have unknown : Opcode.ofMnemonic? (String.ofList ((code ++ char :: rest).take 3)) = none := by
    rw [Option.eq_none_iff_forall_ne_some]
    intro opcode found
    apply foreign opcode
    rwa [← Opcode.ofMnemonic?_eq_some_iff.mp found, String.toList_ofList]
  simp only [Reading.ofCode, unknown]

/-- A line that is read without errors is read the same without its carriage return. -/
theorem Reading.ofLine_dropReturn {line : Nat} {text : List Char}
    (clean : (Reading.ofLine line text).errors = []) :
    Reading.ofLine line (Text.dropReturn text) = Reading.ofLine line text := by
  rcases Text.eq_dropReturn_or text with same | longer
  · rw [← same]
  generalize Text.dropReturn text = body at longer
  subst longer
  have joined := lineCode_concat_return body
  cases found : lineCode body with
  | nil =>
      rw [found, if_pos rfl] at joined
      rw [Reading.ofLine_of_blank found, Reading.ofLine_of_blank joined]
  | cons char rest =>
      rw [found, if_neg (List.cons_ne_nil char rest), List.cons_append] at joined
      by_cases comment : char = ';'
      · subst comment
        rw [Reading.ofLine_of_comment found, Reading.ofLine_of_comment joined]
      · rw [Reading.ofLine_of_code found comment]
        rw [Reading.ofLine_of_code joined comment] at clean ⊢
        by_cases long : 3 ≤ (char :: rest).length
        · have blank : Text.isBlank '\r' = true := by decide
          have same := argumentPieces_concat_of_blank blank ((char :: rest).drop 3)
          exact (Reading.ofCode_append long same line).symm
        · have foreign (opcode : Opcode) : '\r' ∉ opcode.mnemonic.toList := by
            cases opcode <;> decide
          have unknown := Reading.ofCode_of_foreign foreign (Nat.not_le.mp long) [] line
          rw [List.cons_append] at unknown
          rw [unknown] at clean
          cases clean

/-- Closing the lines of a text drops nothing but readings of an empty line,
provided that each line is read without errors. -/
theorem Reading.mapIdx_closeLines (line : Nat) (parts : List (List Char))
    (clean : ∀ index text, parts[index]? = some text →
      (Reading.ofLine (index + line) text).errors = []) :
    ∃ dropped, (∀ reading ∈ dropped, reading = Reading.empty) ∧
      parts.mapIdx (fun index text => Reading.ofLine (index + line) text) =
        (Text.closeLines parts).mapIdx (fun index text => Reading.ofLine (index + line) text) ++
          dropped := by
  induction parts generalizing line with
  | nil => exact ⟨[], by simp, rfl⟩
  | cons first rest ih =>
      cases rest with
      | nil =>
          by_cases empty : first = []
          · subst empty
            exact ⟨[Reading.empty], by simp, rfl⟩
          · exact ⟨[], by simp, by simp [Text.closeLines, empty]⟩
      | cons next later =>
          have shifted (index : Nat) : index + 1 + line = index + (line + 1) := by
            omega
          have head := Reading.ofLine_dropReturn (clean 0 first rfl)
          obtain ⟨dropped, empty, whole⟩ := ih (line + 1) (by
            intro index text found
            rw [← shifted]
            exact clean (index + 1) text found)
          refine ⟨dropped, empty, ?_⟩
          rw [Text.closeLines, List.mapIdx_cons (l := next :: later),
            List.mapIdx_cons (l := Text.closeLines (next :: later)), head]
          simp only [shifted]
          rw [whole, List.cons_append]

end RegisterMachine
