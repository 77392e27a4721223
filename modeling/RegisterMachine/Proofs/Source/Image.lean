/-
This file proves what the arguments of a source look like, whatever text the source is.
Such arguments can be displayed again, for nothing in them is mistaken for anything else.
-/

import RegisterMachine.Proofs.Source.Layout

namespace RegisterMachine

/-- A printable argument stands on a line, and the line need not lose a backspace for it. -/
structure Argument.Printable (argument : Argument) : Prop extends argument.OnLine where
  noBackspace : '\x08' ∉ argument.value.toList

theorem mem_of_mem_dropQuote {body : List Char} {char : Char} (member : char ∈ dropQuote body) :
    char ∈ body := by
  rw [dropQuote] at member
  split at member
  · exact (List.dropLast_prefix body).subset member
  · exact member

/-- The value of an argument is part of its piece, and ends with it if the argument is no string. -/
theorem Argument.value_of_ofPiece? {piece : List Char} {argument : Argument}
    (found : Argument.ofPiece? piece = some argument) :
    (∀ char ∈ argument.value.toList, char ∈ piece) ∧
      (argument.kind ≠ .string → piece = argument.kind.sigil :: argument.value.toList) := by
  cases piece with
  | nil => cases found
  | cons sigil body =>
      cases kind : Argument.Kind.ofSigil? sigil with
      | none => simp [Argument.ofPiece?, kind] at found
      | some kind' =>
          have spelled := Argument.Kind.ofSigil?_eq_some_iff.mp kind
          cases kind' with
          | string =>
              simp only [Argument.ofPiece?, kind, Option.some.injEq] at found
              subst found
              refine ⟨?_, fun other => absurd rfl other⟩
              intro char member
              rw [String.toList_ofList] at member
              exact List.mem_cons_of_mem sigil (mem_of_mem_dropQuote member)
          | register | literal | flag =>
              simp only [Argument.ofPiece?, kind, Option.some.injEq] at found
              subst found
              simp only [String.toList_ofList]
              exact ⟨fun char member => List.mem_cons_of_mem sigil member, fun _ => by rw [spelled]⟩

/-- A piece of a line without backspaces and line feeds holds a printable argument. -/
theorem Argument.printable_of_ofPiece? {text piece : List Char} {argument : Argument}
    (isPiece : IsPiece text piece) (noBackspace : '\x08' ∉ text) (noNewline : '\n' ∉ text)
    (found : Argument.ofPiece? piece = some argument) : argument.Printable := by
  obtain ⟨inside, spelled⟩ := Argument.value_of_ofPiece? found
  refine ⟨⟨?_, ?_⟩, ?_⟩
  · intro char member
    have separated := isPiece.separated char (inside char member)
    refine ⟨separated.1, separated.2, ?_⟩
    rintro rfl
    exact noNewline (isPiece.subset _ (inside _ member))
  · intro notString char last
    apply isPiece.tight.ending
    rw [spelled notString, List.getLast?_cons, last]
    rfl
  · intro member
    exact noBackspace (isPiece.subset _ (inside _ member))

theorem Reading.arguments_of_ofCode {line : Nat} {code : List Char} {token : Token}
    (found : (Reading.ofCode line code).token? = some token) :
    token.arguments = (argumentPieces (code.drop 3)).filterMap Argument.ofPiece? := by
  simp only [Reading.ofCode] at found
  split at found
  · cases found
  · exact congrArg Token.arguments (Option.some.inj found).symm

theorem Reading.arguments_of_ofLine {line : Nat} {text : List Char} {token : Token}
    (found : (Reading.ofLine line text).token? = some token) :
    token.arguments = (argumentPieces ((lineCode text).drop 3)).filterMap Argument.ofPiece? := by
  cases code : lineCode text with
  | nil =>
      rw [Reading.ofLine_of_blank code] at found
      cases found
  | cons char rest =>
      by_cases comment : char = ';'
      · subst comment
        rw [Reading.ofLine_of_comment code] at found
        cases found
      · rw [Reading.ofLine_of_code code comment] at found
        exact Reading.arguments_of_ofCode found

/-- Taking out the first backspace takes out all of them if there is only one. -/
theorem lineCode_subset {text : List Char} (single : text.count '\x08' ≤ 1) :
    ∀ char ∈ lineCode text, char ∈ text ∧ char ≠ '\x08' := by
  intro char member
  have kept : char ∈ text.erase '\x08' := (List.dropWhile_sublist _).subset member
  refine ⟨List.mem_of_mem_erase kept, ?_⟩
  rintro rfl
  have remaining := List.count_pos_iff.mpr kept
  rw [List.count_erase_self] at remaining
  omega

theorem Reading.printable_of_ofLine {line : Nat} {text : List Char} {token : Token}
    (single : text.count '\x08' ≤ 1) (noNewline : '\n' ∉ text)
    (found : (Reading.ofLine line text).token? = some token) :
    ∀ argument ∈ token.arguments, argument.Printable := by
  intro argument member
  rw [Reading.arguments_of_ofLine found] at member
  obtain ⟨piece, among, read⟩ := List.mem_filterMap.mp member
  have inside (char : Char) (kept : char ∈ (lineCode text).drop 3) :=
    lineCode_subset single char (List.mem_of_mem_drop kept)
  apply Argument.printable_of_ofPiece? (isPiece_of_mem_argumentPieces among) _ _ read
  · intro kept
    exact (inside '\x08' kept).2 rfl
  · intro kept
    exact noNewline (inside '\n' kept).1

theorem Text.mem_of_mem_dropReturn {line : List Char} {char : Char}
    (member : char ∈ Text.dropReturn line) : char ∈ line := by
  rcases Text.eq_dropReturn_or line with same | longer
  · rwa [same]
  · rw [longer]
    exact List.mem_append_left _ member

/-- No line holds a line feed. -/
theorem Text.newline_not_mem_of_mem_lines {text line : List Char} (member : line ∈ Text.lines text) :
    '\n' ∉ line := by
  have closed (parts : List (List Char)) (clean : ∀ part ∈ parts, '\n' ∉ part) :
      ∀ line ∈ Text.closeLines parts, '\n' ∉ line := by
    induction parts with
    | nil => simp [Text.closeLines]
    | cons first rest ih =>
        have later := ih fun part among => clean part (List.mem_cons_of_mem first among)
        have head := clean first List.mem_cons_self
        cases rest with
        | nil =>
            by_cases empty : first = [] <;> simp [Text.closeLines, empty, head]
        | cons next tail =>
            intro line among
            rw [Text.closeLines] at among
            rcases List.mem_cons.mp among with rfl | behind
            · exact fun newline => head (Text.mem_of_mem_dropReturn newline)
            · exact later line behind
  apply closed _ _ line member
  intro part among newline
  exact (mem_of_mem_splitOn among '\n' newline).2 rfl

/-- The arguments of a source are printable if no line has a backspace to spare. -/
theorem Source.printable_of_mem_tokens {source : String}
    (single : ∀ line ∈ Text.lines source.toList, line.count '\x08' ≤ 1) {token : Token}
    (member : token ∈ Source.tokens source) : ∀ argument ∈ token.arguments, argument.Printable := by
  obtain ⟨reading, among, found⟩ := List.mem_filterMap.mp member
  rw [Source.readings] at among
  split at among
  · rw [List.mem_singleton.mp among] at found
    cases found
  · obtain ⟨index, inside, rfl⟩ := List.mem_mapIdx.mp among
    have line := List.getElem_mem inside
    exact Reading.printable_of_ofLine (single _ line) (Text.newline_not_mem_of_mem_lines line) found

end RegisterMachine
