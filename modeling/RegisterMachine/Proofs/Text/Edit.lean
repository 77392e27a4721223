/-
This file edits a text line by line and proves that its lines are matched with the edited ones.
Which ending a line gets makes no difference, apart from an empty line behind the last.
-/

import Mathlib.Data.List.Forall2
import RegisterMachine.Proofs.Source.Concatenation

namespace RegisterMachine

/-- Two lists are matched if their items are related one by one, once blank items are put behind
either list. -/
def Matched {Item : Type} (blank : Item) (related : Item → Item → Prop)
    (items others : List Item) : Prop :=
  ∃ padding paddingOther, (∀ item ∈ padding, item = blank) ∧
    (∀ item ∈ paddingOther, item = blank) ∧
    List.Forall₂ related (items ++ padding) (others ++ paddingOther)

section Matched

variable {Item : Type} {blank item other : Item} {related : Item → Item → Prop}
  {items others : List Item}

theorem Matched.cons (first : related item other) (rest : Matched blank related items others) :
    Matched blank related (item :: items) (other :: others) := by
  obtain ⟨padding, paddingOther, empty, emptyOther, pairs⟩ := rest
  exact ⟨padding, paddingOther, empty, emptyOther, .cons first pairs⟩

theorem Matched.imp {weaker : Item → Item → Prop} (matched : Matched blank related items others)
    (weaken : ∀ item other, related item other → weaker item other) :
    Matched blank weaker items others := by
  obtain ⟨padding, paddingOther, empty, emptyOther, pairs⟩ := matched
  exact ⟨padding, paddingOther, empty, emptyOther, pairs.imp weaken⟩

/-- What matched items hold in a related way, the lists hold in that way too, for a blank item holds
nothing. -/
theorem Matched.flatMap {Part : Type} {parts : Item → List Part} {alike : Part → Part → Prop}
    (matched : Matched blank related items others) (nothing : parts blank = [])
    (kept : ∀ item other, related item other → List.Forall₂ alike (parts item) (parts other)) :
    List.Forall₂ alike (items.flatMap parts) (others.flatMap parts) := by
  obtain ⟨padding, paddingOther, empty, emptyOther, pairs⟩ := matched
  have silent {blanks : List Item} (all : ∀ item ∈ blanks, item = blank) :
      blanks.flatMap parts = [] := by
    rw [List.flatMap_eq_nil_iff]
    intro item member
    rw [all item member, nothing]
  have whole : List.Forall₂ alike ((items ++ padding).flatMap parts)
      ((others ++ paddingOther).flatMap parts) :=
    List.rel_flatMap pairs kept
  rwa [List.flatMap_append, List.flatMap_append, silent empty, silent emptyOther,
    List.append_nil, List.append_nil] at whole

theorem Matched.flatMap_eq {Part : Type} {parts : Item → List Part}
    (matched : Matched blank related items others) (nothing : parts blank = [])
    (kept : ∀ item other, related item other → parts item = parts other) :
    items.flatMap parts = others.flatMap parts := by
  rw [← List.forall₂_eq_eq_eq]
  apply matched.flatMap nothing
  intro item other pair
  rw [kept item other pair, List.forall₂_eq_eq_eq]

end Matched

namespace Text

/-- A line feed ends a line, with or without a carriage return before it. -/
def newlines : List (List Char) :=
  [['\n'], ['\r', '\n']]

/-- Each line of a text is edited and gets one of some endings in place of its line feed.
The last line has no line feed and gets one of other endings, which may be empty. -/
inductive Edited (edit : List Char → List Char → Prop) (breaks ends : List (List Char)) :
    List Char → List Char → Prop where
  | last {line edited ending : List Char} (single : '\n' ∉ line) (changed : edit line edited)
      (ended : ending ∈ ends) : Edited edit breaks ends line (edited ++ ending)
  | next {line edited ending text other : List Char} (single : '\n' ∉ line)
      (changed : edit line edited) (ended : ending ∈ breaks)
      (rest : Edited edit breaks ends text other) :
      Edited edit breaks ends (line ++ '\n' :: text) (edited ++ (ending ++ other))

/-- An edit stays on its line if it inserts characters that end no line. -/
def StaysOnLine (edit : List Char → List Char → Prop) : Prop :=
  ∀ line edited, edit line edited → line.Sublist edited ∧
    ∀ char ∈ edited, char ∈ line ∨ char ≠ '\n' ∧ char ≠ '\r'

theorem lines_of_not_mem {line : List Char} (single : '\n' ∉ line) :
    lines line = if line = [] then [] else [line] := by
  rw [lines, List.splitOn_eq_singleton single, closeLines]

/-- The ending of the first line is dropped with a carriage return in it. -/
theorem lines_append_newline {line : List Char} (single : '\n' ∉ line) (rest : List Char) :
    lines (line ++ '\n' :: rest) = dropReturn line :: lines rest := by
  rw [List.append_cons, lines_append, lines_concat_newline, List.splitOn_eq_singleton single]
  rfl

theorem dropReturn_of_not_mem {line : List Char} (bare : '\r' ∉ line) : dropReturn line = line :=
  dropReturn_of_getLast? fun last => bare (List.mem_of_getLast? last)

/-- Either ending leaves the line as it is. -/
theorem lines_append_ending {line ending : List Char} (single : '\n' ∉ line) (bare : '\r' ∉ line)
    (ended : ending ∈ newlines) (rest : List Char) :
    lines (line ++ (ending ++ rest)) = line :: lines rest := by
  rw [newlines, List.mem_pair] at ended
  rcases ended with rfl | rfl
  · rw [List.singleton_append, lines_append_newline single, dropReturn_of_not_mem bare]
  · have whole : line ++ (['\r', '\n'] ++ rest) = line ++ ['\r'] ++ '\n' :: rest := by simp
    have unbroken : '\n' ∉ line ++ ['\r'] := by simp [single]
    rw [whole, lines_append_newline unbroken, dropReturn_concat]

/-- A last line is found with an ending and without one, unless it is empty. -/
theorem exists_lines_append {line ending : List Char} (single : '\n' ∉ line) (bare : '\r' ∉ line)
    (ended : ending ∈ [] :: newlines) :
    ∃ tail, (∀ line ∈ tail, line = []) ∧ lines (line ++ ending) ++ tail = [line] := by
  rcases List.mem_cons.mp ended with rfl | closed
  · rw [List.append_nil, lines_of_not_mem single]
    by_cases empty : line = []
    · exact ⟨[[]], by simp, by simp [empty]⟩
    · exact ⟨[], by simp, by simp [empty]⟩
  · have found := lines_append_ending single bare closed []
    rw [List.append_nil, lines_nil] at found
    exact ⟨[], by simp, by rw [found, List.append_nil]⟩

variable {edit : List Char → List Char → Prop} {breaks ends : List (List Char)}
  {text other : List Char}

theorem StaysOnLine.single {line edited : List Char} (stays : StaysOnLine edit)
    (changed : edit line edited) (single : '\n' ∉ line) : '\n' ∉ edited := by
  intro member
  rcases (stays line edited changed).2 '\n' member with inside | ⟨other, -⟩
  · exact single inside
  · exact other rfl

theorem StaysOnLine.bare {line edited : List Char} (stays : StaysOnLine edit)
    (changed : edit line edited) (bare : '\r' ∉ line) : '\r' ∉ edited := by
  intro member
  rcases (stays line edited changed).2 '\r' member with inside | ⟨-, other⟩
  · exact bare inside
  · exact other rfl

/-- The lines of an edited text are the edited lines of the text.
An empty line at the end may be missing on either side. -/
theorem Edited.matched_lines (edited : Edited edit breaks ends text other)
    (stays : StaysOnLine edit) (breaking : breaks ⊆ newlines) (closing : ends ⊆ [] :: newlines)
    (bare : '\r' ∉ text) :
    Matched [] (fun line edited => edit line edited ∧ line ⊆ text) (lines text) (lines other) := by
  induction edited with
  | @last line edited ending single changed ended =>
      obtain ⟨tail, empty, whole⟩ :=
        exists_lines_append single bare (List.mem_cons_self : [] ∈ [] :: newlines)
      obtain ⟨tailOther, emptyOther, wholeOther⟩ :=
        exists_lines_append (stays.single changed single) (stays.bare changed bare) (closing ended)
      rw [List.append_nil] at whole
      refine ⟨tail, tailOther, empty, emptyOther, ?_⟩
      rw [whole, wholeOther]
      exact .cons ⟨changed, List.Subset.refl _⟩ .nil
  | @next line edited ending text other single changed ended rest ih =>
      have bareLine : '\r' ∉ line := fun member => bare (List.mem_append_left _ member)
      have later : text ⊆ line ++ '\n' :: text :=
        fun char member => List.mem_append_right _ (List.mem_cons_of_mem _ member)
      rw [lines_append_newline single, dropReturn_of_not_mem bareLine,
        lines_append_ending (stays.single changed single) (stays.bare changed bareLine)
          (breaking ended)]
      have matched := ih fun member => bare (later member)
      refine .cons ⟨changed, List.subset_append_left _ _⟩ (matched.imp ?_)
      intro next nextEdited pair
      exact ⟨pair.1, List.Subset.trans pair.2 later⟩

/-- An edit that only inserts leaves no text empty that was not. -/
theorem Edited.ne_nil (edited : Edited edit breaks ends text other) (stays : StaysOnLine edit)
    (breaking : breaks ⊆ newlines) (nonempty : text ≠ []) : other ≠ [] := by
  cases edited with
  | @last _ edited _ _ changed _ =>
      intro empty
      have kept := (stays _ edited changed).1
      rw [(List.append_eq_nil_iff.mp empty).1] at kept
      exact nonempty (List.sublist_nil.mp kept)
  | @next _ _ ending _ _ _ _ ended =>
      have occupied : ∀ ending ∈ newlines, ending ≠ [] := by decide
      simp [occupied ending (breaking ended)]

end Text

end RegisterMachine
