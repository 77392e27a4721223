/-
This file proves that two sources in a row are read one after the other.
The first source must end its last line, and the second one is read on later lines.
-/

import RegisterMachine.Proofs.Source.Numbering

namespace RegisterMachine

/-- Every line before others was ended by a line feed. -/
theorem Text.closeLines_append (first : List (List Char)) {second : List (List Char)}
    (nonempty : second ≠ []) :
    Text.closeLines (first ++ second) =
      first.map Text.dropReturn ++ Text.closeLines second := by
  induction first with
  | nil => rfl
  | cons line rest ih =>
      obtain ⟨next, later, same⟩ := List.exists_cons_of_ne_nil
        (List.append_ne_nil_of_right_ne_nil rest nonempty)
      rw [same] at ih
      rw [List.cons_append, same, Text.closeLines, ih, List.map_cons, List.cons_append]

/-- The lines of a text that ends its last line are the pieces before its line feeds. -/
theorem Text.lines_concat_newline (body : List Char) :
    Text.lines (body ++ ['\n']) = (body.splitOn '\n').map Text.dropReturn := by
  rw [Text.lines, List.splitOn_append_cons_self, List.splitOn_nil,
    Text.closeLines_append _ (List.cons_ne_nil _ _)]
  exact List.append_nil _

theorem Text.lines_append (body second : List Char) :
    Text.lines (body ++ ['\n'] ++ second) = Text.lines (body ++ ['\n']) ++ Text.lines second := by
  rw [Text.lines_concat_newline, List.append_assoc, List.singleton_append, Text.lines,
    List.splitOn_append_cons_self, Text.closeLines_append _ (List.splitOn_ne_nil _ _)]
  rfl

theorem length_splitOn (separator : Char) (text : List Char) :
    (text.splitOn separator).length = text.count separator + 1 := by
  induction text with
  | nil => rfl
  | cons char rest ih =>
      rw [List.splitOn_cons_eq_if_modifyHead, List.count_cons]
      by_cases same : char == separator
      · rw [if_pos same, if_pos same, List.length_cons, ih]
      · rw [if_neg same, if_neg same, List.length_modifyHead, ih]

/-- Each line feed of a text that ends its last line ends one line. -/
theorem Text.length_lines_concat_newline (body : List Char) :
    (Text.lines (body ++ ['\n'])).length = (body ++ ['\n']).count '\n' := by
  rw [Text.lines_concat_newline, List.length_map, length_splitOn, List.count_append]
  rfl

theorem Source.readings_of_ne_empty {source : String} (nonempty : source ≠ "") :
    Source.readings source = (Text.lines source.toList).mapIdx fun index text =>
      Reading.ofLine (index + 1) text := by
  rw [Source.readings, if_neg nonempty]

theorem Source.exists_ofLine_of_mem_readings {source : String} (nonempty : source ≠ "")
    {reading : Reading} (member : reading ∈ Source.readings source) :
    ∃ line, ∃ text ∈ Text.lines source.toList, Reading.ofLine line text = reading := by
  rw [Source.readings_of_ne_empty nonempty] at member
  obtain ⟨index, inside, rfl⟩ := List.mem_mapIdx.mp member
  exact ⟨index + 1, _, List.getElem_mem inside, rfl⟩

/-- The second source is read as if it stood alone, on lines that come after the first source. -/
theorem Source.readings_append {first second : String}
    (ended : first.toList.getLast? = some '\n') (nonempty : second ≠ "") :
    Source.readings (first ++ second) = Source.readings first ++
      (Source.readings second).map (Reading.shift (first.toList.count '\n')) := by
  obtain ⟨body, spelled⟩ := List.getLast?_eq_some_iff.mp ended
  have occupied : first ≠ "" := by
    rintro rfl
    cases ended
  have joined : first ++ second ≠ "" := by
    simp [nonempty]
  rw [Source.readings_of_ne_empty joined, Source.readings_of_ne_empty occupied,
    Source.readings_of_ne_empty nonempty, String.toList_append, spelled, Text.lines_append,
    List.mapIdx_append, Text.length_lines_concat_newline]
  congr 1
  apply List.ext_getElem?
  intro index
  rw [List.getElem?_mapIdx, List.getElem?_map, List.getElem?_mapIdx, Option.map_map]
  congr 1
  funext text
  rw [Nat.add_right_comm, Reading.ofLine_add]
  rfl

theorem Source.tokens_append {first second : String}
    (ended : first.toList.getLast? = some '\n') (nonempty : second ≠ "") :
    Source.tokens (first ++ second) = Source.tokens first ++
      (Source.tokens second).map (Token.shift (first.toList.count '\n')) := by
  rw [Source.tokens, Source.readings_append ended nonempty, List.filterMap_append,
    List.filterMap_map, Source.tokens, Source.tokens, List.map_filterMap]
  rfl

theorem Source.errors_append {first second : String}
    (ended : first.toList.getLast? = some '\n') (nonempty : second ≠ "") :
    Source.errors (first ++ second) = Source.errors first ++
      (Source.errors second).map (LexicalError.shift (first.toList.count '\n')) := by
  rw [Source.errors, Source.readings_append ended nonempty, List.flatMap_append,
    List.flatMap_map, Source.errors, Source.errors, List.map_flatMap]
  rfl

theorem Reading.line_of_ofCode (line : Nat) (code : List Char) :
    (∀ error ∈ (Reading.ofCode line code).errors, error.line = line) ∧
      ∀ token ∈ (Reading.ofCode line code).token?, token.line = line := by
  simp only [Reading.ofCode]
  split
  · simp
  · refine ⟨?_, by simp⟩
    intro error member
    obtain ⟨piece, _, rfl⟩ := List.mem_map.mp member
    rfl

/-- A reading names no line but its own. -/
theorem Reading.line_of_ofLine (line : Nat) (text : List Char) :
    (∀ error ∈ (Reading.ofLine line text).errors, error.line = line) ∧
      ∀ token ∈ (Reading.ofLine line text).token?, token.line = line := by
  cases code : lineCode text with
  | nil =>
      rw [Reading.ofLine_of_blank code]
      simp [Reading.empty]
  | cons char rest =>
      by_cases comment : char = ';'
      · subst comment
        rw [Reading.ofLine_of_comment code]
        simp [Reading.empty]
      · rw [Reading.ofLine_of_code code comment]
        exact Reading.line_of_ofCode line (char :: rest)

theorem Reading.line_of_mem_token? {line : Nat} {text : List Char} {token : Token}
    (member : token ∈ (Reading.ofLine line text).token?.toList) : token.line = line :=
  (Reading.line_of_ofLine line text).2 token (Option.mem_toList.mp member)

/-- The findings of a source can be told apart by their lines if each names its own. -/
theorem Source.filter_flatMap {Item : Type} {items : Reading → List Item} {position : Item → Nat}
    (own : ∀ line text, ∀ item ∈ items (Reading.ofLine line text), position item = line)
    {source : String} (nonempty : source ≠ "") (index : Nat) :
    ((Source.readings source).flatMap items).filter (fun item => position item = index + 1) =
      ((Text.lines source.toList)[index]?.map fun text =>
        items (Reading.ofLine (index + 1) text)).getD [] := by
  rw [Source.readings_of_ne_empty nonempty]
  generalize Text.lines source.toList = lines
  -- A line at the end comes after all others, so the lines are taken from the end.
  induction lines using List.reverseRecOn with
  | nil => rfl
  | append_singleton before last ih =>
      rw [List.mapIdx_concat, List.flatMap_append, List.filter_append, ih, List.flatMap_singleton]
      have other (different : index ≠ before.length) :
          (items (Reading.ofLine (before.length + 1) last)).filter
            (fun item => position item = index + 1) = [] := by
        rw [List.filter_eq_nil_iff]
        intro item member
        have mine := own (before.length + 1) last item member
        simp only [decide_eq_true_eq]
        omega
      rcases Nat.lt_trichotomy index before.length with inside | same | beyond
      · rw [other (Nat.ne_of_lt inside), List.append_nil, List.getElem?_append_left inside]
      · subst same
        have whole : (items (Reading.ofLine (before.length + 1) last)).filter
            (fun item => position item = before.length + 1) =
              items (Reading.ofLine (before.length + 1) last) := by
          rw [List.filter_eq_self]
          intro item member
          simpa using own (before.length + 1) last item member
        rw [whole, List.getElem?_concat_length, List.getElem?_eq_none (Nat.le_refl _)]
        rfl
      · rw [other (Nat.ne_of_gt beyond), List.append_nil, List.getElem?_eq_none (by omega),
          List.getElem?_eq_none (by simp only [List.length_append, List.length_singleton]; omega)]

/-- The tokens with the number of a line are those that are read on the line. -/
theorem Source.filter_tokens {source : String} (nonempty : source ≠ "") (index : Nat) :
    (Source.tokens source).filter (fun token => token.line = index + 1) =
      ((Text.lines source.toList)[index]?.map fun text =>
        (Reading.ofLine (index + 1) text).token?.toList).getD [] := by
  rw [Source.tokens, List.filterMap_eq_flatMap_toList]
  exact Source.filter_flatMap (fun _ _ _ => Reading.line_of_mem_token?) nonempty index

theorem Source.filter_errors {source : String} (nonempty : source ≠ "") (index : Nat) :
    (Source.errors source).filter (fun error => error.line = index + 1) =
      ((Text.lines source.toList)[index]?.map fun text =>
        (Reading.ofLine (index + 1) text).errors).getD [] :=
  Source.filter_flatMap (fun line text => (Reading.line_of_ofLine line text).1) nonempty index

end RegisterMachine
