/-
This file reads a source and an edited form of it side by side.
The readings are matched line by line, with the relation that the edit gives them.
-/

import RegisterMachine.Proofs.Text.Edit

namespace RegisterMachine

/-- The reading of a line depends on the code of the line alone. -/
theorem Reading.ofLine_congr {text other : List Char} (same : lineCode text = lineCode other)
    (line : Nat) : Reading.ofLine line text = Reading.ofLine line other := by
  rw [Reading.ofLine, Reading.ofLine, same]

/-- Matched lines have matched readings, for an empty line has an empty reading. -/
theorem Reading.matched_mapIdx {lines others : List (List Char)}
    {edit : List Char → List Char → Prop} {related : Reading → Reading → Prop}
    (matched : Matched [] edit lines others)
    (step : ∀ index line changed, edit line changed → (line ≠ [] → lines[index]? = some line) →
      related (Reading.ofLine (index + 1) line) (Reading.ofLine (index + 1) changed)) :
    Matched Reading.empty related
      (lines.mapIdx fun index text => Reading.ofLine (index + 1) text)
      (others.mapIdx fun index text => Reading.ofLine (index + 1) text) := by
  obtain ⟨padding, paddingOther, empty, emptyOther, pairs⟩ := matched
  have silent {blanks : List (List Char)} (all : ∀ line ∈ blanks, line = []) (count : Nat) :
      ∀ reading ∈ blanks.mapIdx fun index text => Reading.ofLine (index + count + 1) text,
        reading = Reading.empty := by
    intro reading member
    obtain ⟨index, inside, rfl⟩ := List.mem_mapIdx.mp member
    rw [all _ (List.getElem_mem inside)]
    rfl
  refine ⟨_, _, silent empty lines.length, silent emptyOther others.length, ?_⟩
  rw [← List.mapIdx_append, ← List.mapIdx_append]
  rw [List.forall₂_iff_get] at pairs ⊢
  obtain ⟨lengths, pairs⟩ := pairs
  refine ⟨by simpa only [List.length_mapIdx] using lengths, ?_⟩
  intro index inside insideOther
  rw [List.length_mapIdx] at inside insideOther
  have changed := pairs index inside insideOther
  simp only [List.get_eq_getElem, List.getElem_mapIdx] at changed ⊢
  apply step index _ _ changed
  intro occupied
  -- Only a line of the list itself can be occupied, for the padding behind it is empty.
  rw [List.getElem_append] at occupied ⊢
  split at occupied
  · next early =>
      rw [dif_pos early, List.getElem?_eq_getElem early]
  · exact absurd (empty _ (List.getElem_mem _)) occupied

/-- If the readings of a line before and after its edit are related, so are those of the source. -/
theorem Source.matched_readings {source other : String} {edit : List Char → List Char → Prop}
    {breaks ends : List (List Char)} (related : Reading → Reading → Prop)
    (edited : Text.Edited edit breaks ends source.toList other.toList)
    (stays : Text.StaysOnLine edit) (breaking : breaks ⊆ Text.newlines)
    (closing : ends ⊆ [] :: Text.newlines) (nonempty : source ≠ "") (bare : '\r' ∉ source.toList)
    (step : ∀ index line changed, edit line changed → line ⊆ source.toList →
      (line ≠ [] → (Text.lines source.toList)[index]? = some line) →
      related (Reading.ofLine (index + 1) line) (Reading.ofLine (index + 1) changed)) :
    Matched Reading.empty related (Source.readings source) (Source.readings other) := by
  have occupied : other ≠ "" := by
    rintro rfl
    exact edited.ne_nil stays breaking (by simpa using nonempty) rfl
  rw [Source.readings_of_ne_empty nonempty, Source.readings_of_ne_empty occupied]
  apply Reading.matched_mapIdx (edited.matched_lines stays breaking closing bare)
  rintro index line changed ⟨pair, subset⟩ found
  exact step index line changed pair subset found

/-- The token of each line stands in the list of tokens. -/
theorem Source.tokens_eq_flatMap (source : String) :
    Source.tokens source = (Source.readings source).flatMap fun reading => reading.token?.toList :=
  List.filterMap_eq_flatMap_toList _ _

end RegisterMachine
