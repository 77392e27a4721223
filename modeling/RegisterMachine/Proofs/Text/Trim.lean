/-
This file proves what trimming does to the ends of a text.
A trimmed text is tight, and a tight text keeps its shape between any blanks.
-/

import Mathlib.Data.List.DropRight
import RegisterMachine.Text.Blank

namespace RegisterMachine.Text

/-- A text is tight when it neither starts nor ends with a blank. -/
structure Tight (text : List Char) : Prop where
  start : ∀ char ∈ text.head?, isBlank char = false
  ending : ∀ char ∈ text.getLast?, isBlank char = false

/-- What is left of a trimmed text stands between blanks and has none at its own ends. -/
def Trims (text piece : List Char) : Prop :=
  ∃ before after, text = before ++ piece ++ after ∧ (∀ char ∈ before, isBlank char = true) ∧
    (∀ char ∈ after, isBlank char = true) ∧ Tight piece

theorem tight_of_forall {text : List Char} (solid : ∀ char ∈ text, isBlank char = false) :
    Tight text :=
  ⟨fun char first => solid char (List.mem_of_mem_head? first),
    fun char last => solid char (List.mem_of_mem_getLast? last)⟩

theorem trimStart_append_of_blank {before : List Char}
    (blank : ∀ char ∈ before, isBlank char = true) (text : List Char) :
    trimStart (before ++ text) = trimStart text :=
  List.dropWhile_append_of_pos blank

theorem trimStart_of_start {text : List Char}
    (start : ∀ char ∈ text.head?, isBlank char = false) : trimStart text = text := by
  cases text with
  | nil => rfl
  | cons char rest =>
      rw [trimStart_cons, start char rfl]
      rfl

theorem trimEnd_eq_rdropWhile (text : List Char) : trimEnd text = text.rdropWhile isBlank :=
  rfl

theorem trimEnd_append_of_blank {after : List Char}
    (blank : ∀ char ∈ after, isBlank char = true) (text : List Char) :
    trimEnd (text ++ after) = trimEnd text := by
  induction after using List.reverseRecOn with
  | nil => rw [List.append_nil]
  | append_singleton body last ih =>
      rw [← List.append_assoc, trimEnd_concat, if_pos (blank last (by simp))]
      exact ih fun char member => blank char (by simp [member])

theorem trimEnd_of_ending {text : List Char}
    (ending : ∀ char ∈ text.getLast?, isBlank char = false) : trimEnd text = text := by
  rw [trimEnd_eq_rdropWhile, List.rdropWhile_eq_self_iff]
  intro nonempty
  rw [ending _ (List.getLast?_eq_some_getLast nonempty)]
  exact Bool.false_ne_true

theorem trim_of_tight {text : List Char} (tight : Tight text) : trim text = text := by
  rw [trim, trimStart_of_start tight.start, trimEnd_of_ending tight.ending]

/-- The first character that is kept is no blank. -/
theorem start_trimStart (text : List Char) :
    ∀ char ∈ (trimStart text).head?, isBlank char = false := by
  induction text with
  | nil => simp
  | cons char rest ih =>
      rw [trimStart_cons]
      by_cases blank : isBlank char
      · rw [if_pos blank]
        exact ih
      · rw [if_neg blank]
        simpa using blank

/-- The last character that is kept is no blank. -/
theorem ending_trimEnd (text : List Char) :
    ∀ char ∈ (trimEnd text).getLast?, isBlank char = false := by
  induction text using List.reverseRecOn with
  | nil => simp
  | append_singleton body last ih =>
      rw [trimEnd_concat]
      by_cases blank : isBlank last
      · rw [if_pos blank]
        exact ih
      · rw [if_neg blank]
        simpa using blank

/-- Removing blanks from the end does not change the first character that is kept. -/
theorem head?_trimEnd {text : List Char} (kept : trimEnd text ≠ []) :
    (trimEnd text).head? = text.head? := by
  obtain ⟨rest, whole⟩ := List.rdropWhile_prefix isBlank text
  rw [← trimEnd_eq_rdropWhile] at whole
  obtain ⟨char, body, found⟩ := List.exists_cons_of_ne_nil kept
  calc (trimEnd text).head?
      = (trimEnd text ++ rest).head? := by rw [found]; rfl
    _ = text.head? := by rw [whole]

theorem trim_tight (text : List Char) : Tight (trim text) := by
  constructor
  · intro char first
    have kept : trim text ≠ [] := by
      intro empty
      rw [empty] at first
      cases first
    rw [trim, head?_trimEnd kept] at first
    exact start_trimStart text char first
  · exact ending_trimEnd (trimStart text)

/-- Blanks around a text do not change what trimming leaves of it. -/
theorem trim_surrounded {before after : List Char}
    (blankBefore : ∀ char ∈ before, isBlank char = true)
    (blankAfter : ∀ char ∈ after, isBlank char = true) (text : List Char) :
    trim (before ++ text ++ after) = trim text := by
  rw [List.append_assoc, trim, trimStart_append_of_blank blankBefore, trim]
  by_cases empty : trimStart text = []
  · have blank : ∀ char ∈ text, isBlank char = true := by
      simpa [trimStart] using empty
    rw [trimStart_append_of_blank blank, empty, trimEnd_eq_rdropWhile, trimEnd_nil,
      List.rdropWhile_eq_nil_iff]
    intro char member
    exact blankAfter char (List.dropWhile_subset isBlank member)
  · have split : trimStart (text ++ after) = trimStart text ++ after := by
      simp only [trimStart] at empty ⊢
      rw [List.dropWhile_append, if_neg (by simpa using empty)]
    rw [split, trimEnd_append_of_blank blankAfter]

/-- A text of blanks is trimmed to nothing. -/
theorem trim_of_blank {text : List Char} (blank : ∀ char ∈ text, isBlank char = true) :
    trim text = [] := by
  have trimmed := trim_surrounded blank (List.forall_mem_nil _) []
  simpa using trimmed

theorem mem_of_mem_trim {text : List Char} {char : Char} (member : char ∈ trim text) :
    char ∈ text := by
  have kept : char ∈ trimStart text := (List.rdropWhile_prefix isBlank _).subset member
  exact List.dropWhile_subset isBlank kept

theorem trims_iff {text piece : List Char} : Trims text piece ↔ trim text = piece := by
  constructor
  · rintro ⟨before, after, rfl, blankBefore, blankAfter, tight⟩
    rw [trim_surrounded blankBefore blankAfter, trim_of_tight tight]
  · rintro rfl
    have split : trimEnd (trimStart text) ++
        ((trimStart text).reverse.takeWhile isBlank).reverse = trimStart text := by
      rw [trimEnd, ← List.reverse_append, List.takeWhile_append_dropWhile, List.reverse_reverse]
    refine ⟨text.takeWhile isBlank,
      ((trimStart text).reverse.takeWhile isBlank).reverse, ?_, ?_, ?_,
      trim_tight text⟩
    · rw [List.append_assoc, trim, split, trimStart, List.takeWhile_append_dropWhile]
    · exact fun char member => List.mem_takeWhile_imp member
    · exact fun char member => List.mem_takeWhile_imp (List.mem_reverse.mp member)

end RegisterMachine.Text
