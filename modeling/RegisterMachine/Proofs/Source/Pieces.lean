/-
This file proves what the argument pieces of a line are.
They are tight texts without separators, and blanks at the end of the line do not change them.
-/

import RegisterMachine.Proofs.Text.Trim
import RegisterMachine.Source

namespace RegisterMachine

/-- A test of all characters of a text goes through the text, and not through all characters. -/
instance Text.decidableForallMem (test : Char → Prop) [DecidablePred test] (text : List Char) :
    Decidable (∀ char ∈ text, test char) :=
  List.decidableBAll test text

/-- A test of the end of a text looks at one character at most. -/
instance Text.decidableForallMemOption (test : Char → Prop) [DecidablePred test]
    (ending : Option Char) : Decidable (∀ char ∈ ending, test char) :=
  Option.decidableForallMem ending

/-- An argument stands on a line if its value holds no separator.
Only between quotes can the value end with a blank. -/
structure Argument.OnLine (argument : Argument) : Prop where
  separated : ∀ char ∈ argument.value.toList, char ≠ ',' ∧ char ≠ ';' ∧ char ≠ '\n'
  ending : argument.kind ≠ .string →
    ∀ char ∈ argument.value.toList.getLast?, Text.isBlank char = false

/-- The closing quote belongs to the display of a string and to no other. -/
def Argument.Kind.closing : Argument.Kind → List Char
  | .string => ['"']
  | _ => []

theorem Argument.toList_display (argument : Argument) :
    argument.display.toList =
      argument.kind.sigil :: (argument.value.toList ++ argument.kind.closing) := by
  obtain ⟨kind, value⟩ := argument
  cases kind <;> simp [Argument.display, Argument.Kind.sigil, Argument.Kind.closing]

@[simp] theorem dropQuote_concat (body : List Char) : dropQuote (body ++ ['"']) = body := by
  simp [dropQuote]

/-- A displayed argument is read back, whatever its value is. -/
theorem Argument.ofPiece?_display (argument : Argument) :
    Argument.ofPiece? argument.display.toList = some argument := by
  rw [Argument.toList_display]
  obtain ⟨kind, value⟩ := argument
  have found := Argument.Kind.ofSigil?_eq_some_iff.mpr (rfl : kind.sigil = kind.sigil)
  cases kind <;> simp [Argument.ofPiece?, found, Argument.Kind.closing]

theorem Argument.Kind.isBlank_sigil (kind : Argument.Kind) :
    Text.isBlank kind.sigil = false := by
  cases kind <;> decide

/-- The display of an argument on a line starts with a sigil and ends with no blank. -/
theorem Argument.OnLine.tight_display {argument : Argument} (onLine : argument.OnLine) :
    Text.Tight argument.display.toList := by
  rw [Argument.toList_display]
  constructor
  · intro char first
    cases first
    exact argument.kind.isBlank_sigil
  · intro char last
    by_cases string : argument.kind = .string
    · rw [string, Argument.Kind.closing, ← List.cons_append, List.getLast?_concat] at last
      cases last
      decide
    · have closing : argument.kind.closing = [] := by
        cases kind : argument.kind <;> simp_all [Argument.Kind.closing]
      rw [closing, List.append_nil, List.getLast?_cons] at last
      cases found : argument.value.toList.getLast? with
      | none =>
          rw [found] at last
          cases last
          exact argument.kind.isBlank_sigil
      | some ending =>
          rw [found] at last
          cases last
          exact onLine.ending string _ found

/-- The display adds a sigil and quotes, which separate nothing. -/
theorem Argument.OnLine.separated_display {argument : Argument} (onLine : argument.OnLine) :
    ∀ char ∈ argument.display.toList, char ≠ ',' ∧ char ≠ ';' ∧ char ≠ '\n' := by
  intro char member
  rw [Argument.toList_display, List.mem_cons, List.mem_append] at member
  rcases member with rfl | inside | quote
  · cases argument.kind <;> decide
  · exact onLine.separated char inside
  · cases kind : argument.kind <;> simp_all [Argument.Kind.closing]

/-- A character behind a text joins its last piece unless it is the separator. -/
theorem splitOn_concat {separator char : Char} (inside : char ≠ separator) (text : List Char) :
    ∃ front last, text.splitOn separator = front ++ [last] ∧
      (text ++ [char]).splitOn separator = front ++ [last ++ [char]] := by
  induction text with
  | nil => exact ⟨[], [], rfl, by simp [List.splitOn_cons_eq_if_modifyHead, inside]⟩
  | cons first rest ih =>
      obtain ⟨front, last, whole, extended⟩ := ih
      rw [List.cons_append, List.splitOn_cons_eq_if_modifyHead,
        List.splitOn_cons_eq_if_modifyHead, whole, extended]
      by_cases same : first = separator
      · exact ⟨[] :: front, last, by simp [same], by simp [same]⟩
      · cases front with
        | nil => exact ⟨[], first :: last, by simp [same], by simp [same]⟩
        | cons head tail => exact ⟨(first :: head) :: tail, last, by simp [same], by simp [same]⟩

/-- What stands behind a semicolon holds no piece. -/
theorem argumentPieces_append_comment (text rest : List Char) :
    argumentPieces (text ++ ';' :: rest) = argumentPieces text := by
  have code : (text ++ ';' :: rest).takeWhile (· != ';') = text.takeWhile (· != ';') := by
    induction text with
    | nil => rfl
    | cons char text ih => rw [List.cons_append, List.takeWhile_cons, List.takeWhile_cons, ih]
  rw [argumentPieces, argumentPieces, code]

/-- A blank behind the arguments is trimmed away or belongs to the comment. -/
theorem argumentPieces_concat_of_blank {char : Char} (blank : Text.isBlank char = true)
    (text : List Char) : argumentPieces (text ++ [char]) = argumentPieces text := by
  have noComma : char ≠ ',' := by
    rintro rfl
    exact absurd blank (by decide)
  have noComment : char ≠ ';' := by
    rintro rfl
    exact absurd blank (by decide)
  by_cases whole : ∀ other ∈ text, (other != ';') = true
  · obtain ⟨front, last, before, after⟩ := splitOn_concat noComma text
    have blanks : ∀ other ∈ [char], Text.isBlank other = true := by simpa using blank
    have trimmed := Text.trim_surrounded (List.forall_mem_nil _) blanks last
    have taken : (text ++ [char]).takeWhile (· != ';') = text ++ [char] := by
      rw [List.takeWhile_append_of_pos whole]
      simp [noComment]
    have kept : text.takeWhile (· != ';') = text := by
      rw [List.takeWhile_eq_self_iff]
      exact whole
    rw [argumentPieces, argumentPieces, taken, kept, before, after]
    simp_all
  · have same : (text ++ [char]).takeWhile (· != ';') = text.takeWhile (· != ';') := by
      rw [List.takeWhile_append, if_neg]
      intro full
      apply whole
      intro other member
      have kept := List.IsPrefix.eq_of_length (List.takeWhile_prefix _) full
      rw [← kept] at member
      have other := List.mem_takeWhile_imp member
      exact other
    rw [argumentPieces, argumentPieces, same]

/-- Splitting keeps each character but the separators, and hands it to one piece. -/
theorem mem_of_mem_splitOn {separator : Char} {text piece : List Char}
    (member : piece ∈ text.splitOn separator) :
    ∀ char ∈ piece, char ∈ text ∧ char ≠ separator := by
  induction text generalizing piece with
  | nil => simp_all
  | cons first rest ih =>
      intro char inside
      obtain ⟨head, tail, found⟩ :=
        List.exists_cons_of_ne_nil (List.splitOn_ne_nil separator rest)
      have later : ∀ other ∈ head :: tail, char ∈ other → char ∈ first :: rest ∧ char ≠ separator := by
        intro other within among
        have kept := ih (found ▸ within) char among
        exact ⟨List.mem_cons_of_mem first kept.1, kept.2⟩
      rw [List.splitOn_cons_eq_if_modifyHead, found] at member
      by_cases same : first = separator
      · simp only [same, beq_self_eq_true, if_true] at member
        rcases List.mem_cons.mp member with rfl | behind
        · cases inside
        · exact later piece behind inside
      · simp only [beq_iff_eq, same, if_false, List.modifyHead_cons] at member
        rcases List.mem_cons.mp member with rfl | behind
        · rcases List.mem_cons.mp inside with rfl | among
          · exact ⟨List.mem_cons_self, same⟩
          · exact later head List.mem_cons_self among
        · exact later piece (List.mem_cons_of_mem head behind) inside

theorem mem_intercalate {separator : List Char} {parts : List (List Char)} {char : Char}
    (member : char ∈ separator.intercalate parts) :
    char ∈ separator ∨ ∃ part ∈ parts, char ∈ part := by
  induction parts with
  | nil => cases member
  | cons first rest ih =>
      cases rest with
      | nil => exact .inr ⟨first, List.mem_cons_self, by simpa using member⟩
      | cons next later =>
          rw [List.intercalate_cons_cons, List.mem_append, List.mem_append] at member
          rcases member with (inside | between) | behind
          · exact .inr ⟨first, List.mem_cons_self, inside⟩
          · exact .inl between
          · rcases ih behind with between | ⟨part, among, inside⟩
            · exact .inl between
            · exact .inr ⟨part, List.mem_cons_of_mem first among, inside⟩

/-- A piece is a stretch of the line without blanks at its ends and without separators. -/
structure IsPiece (text piece : List Char) : Prop where
  nonempty : piece ≠ []
  tight : Text.Tight piece
  subset : ∀ char ∈ piece, char ∈ text
  separated : ∀ char ∈ piece, char ≠ ',' ∧ char ≠ ';'

theorem isPiece_of_mem_argumentPieces {text piece : List Char}
    (member : piece ∈ argumentPieces text) : IsPiece text piece := by
  simp only [argumentPieces, List.mem_filter, List.mem_map, decide_eq_true_eq] at member
  obtain ⟨⟨untrimmed, split, rfl⟩, nonempty⟩ := member
  have origin : ∀ char ∈ Text.trim untrimmed,
      char ∈ text.takeWhile (· != ';') ∧ char ≠ ',' := by
    intro char inside
    exact mem_of_mem_splitOn split char (Text.mem_of_mem_trim inside)
  refine ⟨nonempty, Text.trim_tight untrimmed, ?_, ?_⟩
  · intro char inside
    exact (List.takeWhile_prefix _).subset (origin char inside).1
  · intro char inside
    obtain ⟨kept, noComma⟩ := origin char inside
    have noComment := List.mem_takeWhile_imp kept
    exact ⟨noComma, by simpa using noComment⟩

end RegisterMachine
