/-
This file names the blank characters and removes them from the ends of a text.
The blanks are the twenty-five characters of the Unicode property White_Space.
-/

namespace RegisterMachine.Text

/-- A character is blank when it has the Unicode property White_Space. -/
def isBlank (char : Char) : Bool :=
  let code := char.toNat
  decide (9 ≤ code ∧ code ≤ 13 ∨ code = 0x20 ∨ code = 0x85 ∨ code = 0xA0 ∨ code = 0x1680 ∨
    0x2000 ≤ code ∧ code ≤ 0x200A ∨ code = 0x2028 ∨ code = 0x2029 ∨ code = 0x202F ∨
    code = 0x205F ∨ code = 0x3000)

/-- This function removes the blanks before the first other character. -/
def trimStart (text : List Char) : List Char :=
  text.dropWhile isBlank

/-- This function removes the blanks after the last other character. -/
def trimEnd (text : List Char) : List Char :=
  (text.reverse.dropWhile isBlank).reverse

/-- Trimming removes the blanks at both ends and keeps those inside. -/
def trim (text : List Char) : List Char :=
  trimEnd (trimStart text)

@[simp] theorem trimStart_nil : trimStart [] = [] := rfl

@[simp] theorem trimEnd_nil : trimEnd [] = [] := rfl

@[simp] theorem trim_nil : trim [] = [] := rfl

theorem trimStart_cons (char : Char) (rest : List Char) :
    trimStart (char :: rest) = if isBlank char then trimStart rest else char :: rest := by
  simp only [trimStart, List.dropWhile_cons]

theorem trimEnd_concat (text : List Char) (char : Char) :
    trimEnd (text ++ [char]) = if isBlank char then trimEnd text else text ++ [char] := by
  by_cases blank : isBlank char <;> simp [trimEnd, blank]

end RegisterMachine.Text
