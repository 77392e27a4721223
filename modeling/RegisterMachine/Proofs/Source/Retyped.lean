/-
This file proves that line endings and one stray backspace on each line do not change a reading.
A line feed at the end of the source may be added as well.
-/

import RegisterMachine.Proofs.Source.Edit

namespace RegisterMachine

/-- One backspace may have strayed to any place of a line. -/
inductive Strayed : List Char → List Char → Prop where
  | none (line : List Char) : Strayed line line
  | backspace (before after : List Char) : Strayed (before ++ after) (before ++ '\x08' :: after)

theorem Strayed.staysOnLine : Text.StaysOnLine Strayed := by
  intro line edited strayed
  cases strayed with
  | none => exact ⟨List.Sublist.refl line, fun char member => .inl member⟩
  | backspace before after =>
      refine ⟨(List.sublist_cons_self _ after).append_left before, ?_⟩
      intro char member
      rw [List.mem_append, List.mem_cons] at member
      rcases member with inside | rfl | behind
      · exact .inl (List.mem_append_left _ inside)
      · exact .inr (by decide)
      · exact .inl (List.mem_append_right _ behind)

/-- The first backspace of a line is not part of its code. -/
theorem Strayed.lineCode_eq {line edited : List Char} (strayed : Strayed line edited)
    (clean : '\x08' ∉ line) : lineCode edited = lineCode line := by
  cases strayed with
  | none => rfl
  | backspace before after =>
      have cleanBefore : '\x08' ∉ before := fun member => clean (List.mem_append_left _ member)
      rw [lineCode, lineCode, List.erase_append_right _ cleanBefore, List.erase_cons_head,
        List.erase_of_not_mem clean]

/-- A source that was clean is read as before when any of its line feeds have got a carriage return,
when each of its lines has got a stray backspace and when its last line has got an ending.  The same
tokens and errors are found on the same lines, and every sink is told the same. -/
theorem Source.read_retyped {source other : String} (nonempty : source ≠ "")
    (bare : '\r' ∉ source.toList) (clean : '\x08' ∉ source.toList)
    (retyped : Text.Edited Strayed Text.newlines ([] :: Text.newlines) source.toList
      other.toList) :
    Source.tokens other = Source.tokens source ∧ Source.errors other = Source.errors source ∧
      Source.events other = Source.events source := by
  have matched : Matched Reading.empty Eq (Source.readings source) (Source.readings other) := by
    apply Source.matched_readings Eq retyped Strayed.staysOnLine (List.Subset.refl _)
      (List.Subset.refl _) nonempty bare
    intro index line edited strayed subset _
    have code := strayed.lineCode_eq fun member => clean (subset member)
    exact (Reading.ofLine_congr code (index + 1)).symm
  have same {Item : Type} {items : Reading → List Item} (nothing : items Reading.empty = []) :
      (Source.readings other).flatMap items = (Source.readings source).flatMap items :=
    (matched.flatMap_eq nothing fun _ _ equal => congrArg items equal).symm
  refine ⟨?_, same rfl, same rfl⟩
  rw [Source.tokens_eq_flatMap, Source.tokens_eq_flatMap]
  exact same rfl

theorem Source.read_retyped_sample :
    let retyped := "in\x08c $a\r\n\x08\n#\x08\r\n"
    Source.tokens retyped = [⟨1, .increment, [⟨.register, "a"⟩]⟩] ∧
      Source.errors retyped = [⟨3, .unknownOpcode "#"⟩] ∧
      Source.events retyped = Source.events "inc $a\n\n#" := by
  intro retyped
  have text : "inc $a\n\n#".toList = (['i', 'n'] ++ ['c', ' ', '$', 'a']) ++ '\n' ::
      (([] ++ []) ++ '\n' :: (['#'] ++ [])) := by
    decide +kernel
  have typed : retyped.toList = (['i', 'n'] ++ '\x08' :: ['c', ' ', '$', 'a']) ++ (['\r', '\n'] ++
      (([] ++ '\x08' :: []) ++ (['\n'] ++ ((['#'] ++ '\x08' :: []) ++ ['\r', '\n'])))) := by
    decide +kernel
  have edited : Text.Edited Strayed Text.newlines ([] :: Text.newlines) "inc $a\n\n#".toList
      retyped.toList := by
    rw [text, typed]
    apply Text.Edited.next (by decide) (.backspace _ _) (by decide)
    apply Text.Edited.next (by decide) (.backspace _ _) (by decide)
    exact .last (by decide) (.backspace _ _) (by decide)
  obtain ⟨tokens, errors, events⟩ :=
    Source.read_retyped (by decide) (by decide) (by decide) edited
  refine ⟨tokens.trans ?_, errors.trans ?_, events⟩
  · decide +kernel
  · decide +kernel

end RegisterMachine
