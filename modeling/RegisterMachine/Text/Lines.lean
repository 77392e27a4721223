/-
This file reads a text as lines.
A line ends with a line feed, and the carriage return before that line feed belongs to the ending.
-/

namespace RegisterMachine.Text

/-- The ending of a line takes one carriage return with it. -/
def dropReturn (line : List Char) : List Char :=
  if line.getLast? = some '\r' then line.dropLast else line

/-- Each piece but the last was ended by a line feed, and an empty last piece is no line. -/
def closeLines : List (List Char) → List (List Char)
  | [] => []
  | [last] => if last = [] then [] else [last]
  | line :: next :: rest => dropReturn line :: closeLines (next :: rest)

/-- The lines of a text come without their endings. -/
def lines (text : List Char) : List (List Char) :=
  closeLines (text.splitOn '\n')

@[simp] theorem lines_nil : lines [] = [] := rfl

@[simp] theorem dropReturn_concat (line : List Char) : dropReturn (line ++ ['\r']) = line := by
  simp [dropReturn]

theorem dropReturn_of_getLast? {line : List Char} (other : line.getLast? ≠ some '\r') :
    dropReturn line = line :=
  if_neg other

/-- A line is what is left of a piece, with or without a carriage return behind it. -/
theorem eq_dropReturn_or (line : List Char) :
    line = dropReturn line ∨ line = dropReturn line ++ ['\r'] := by
  by_cases last : line.getLast? = some '\r'
  · right
    obtain ⟨body, rfl⟩ := List.getLast?_eq_some_iff.mp last
    rw [dropReturn_concat]
  · left
    exact (dropReturn_of_getLast? last).symm

end RegisterMachine.Text
