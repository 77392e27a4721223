/-
This file proves that literals within the limit have the numbers that their digits spell.
The text of a number that denotes an integer is such a literal, and it spells the same bits.
-/

import RegisterMachine.Literal
import RegisterMachine.Proofs.Number.Printed
import RegisterMachine.Proofs.Text.Trim

namespace RegisterMachine
open Number

theorem Number.denotes_one : Denotes (Float.ofBits 0x3FF0000000000000) 1 := by
  have stored : decode (Float.ofBits 0x3FF0000000000000) = .finite false (2 ^ 52) 1022 := by
    decide +kernel
  simp only [Denotes, stored, Decoded.value?, Option.some.injEq]
  norm_num

/-- A natural number below the limit is converted exactly. -/
theorem Number.denotes_ofNat {natural : Nat} (small : natural < limit) :
    Denotes (Float.ofNat natural) natural := by
  have stored : natural.toUInt64.toNat = natural := by
    apply Nat.mod_eq_of_lt
    rw [limit] at small
    omega
  have converted : Denotes natural.toUInt64.toFloat natural := by
    apply denotes_pack
    change Holds (Float.Model.UnpackedFloat.normalize _ (natural.toUInt64.toNat : Int) 0 .positive) _
    rw [stored]
    exact holds_normalize (by simp) (by omega) _
  have product := converted.mul denotes_one (by omega)
  rw [Int.mul_one] at product
  have unfolded : Float.ofNat natural =
      natural.toUInt64.toFloat * Float.ofBits 0x3FF0000000000000 := by
    change Float.ofScientific natural false 0 = _
    rw [Float.ofScientific, dif_pos ⟨small, by decide⟩]
    rfl
  rw [unfolded]
  exact product

/-- Taking in more digits does not make a total smaller. -/
theorem le_foldl_digits {base : Nat} (positive : 0 < base) (digits : List Nat) (total : Nat) :
    total ≤ digits.foldl (fun total digit => total * base + digit) total := by
  induction digits generalizing total with
  | nil => exact Nat.le_refl total
  | cons digit rest ih =>
      have grown : total ≤ total * base + digit :=
        Nat.le_trans (Nat.le_mul_of_pos_right total positive) (Nat.le_add_right _ digit)
      exact Nat.le_trans grown (ih _)

theorem Radix.base_bounds (radix : Radix) : 0 < radix.base ∧ radix.base < limit := by
  cases radix <;> decide

/-- No step of the rounded total rounds as long as the exact total stays within the limit. -/
theorem denotes_foldl_digits {radix : Radix} {digits : List Nat}
    (withinRadix : ∀ digit ∈ digits, digit < radix.base) {rounded : Float} {total : Nat}
    (denotes : Denotes rounded total)
    (within : digits.foldl (fun total digit => total * radix.base + digit) total ≤ limit) :
    Denotes
      (digits.foldl (fun total digit => total * Float.ofNat radix.base + Float.ofNat digit) rounded)
      (digits.foldl (fun total digit => total * radix.base + digit) total : Nat) := by
  obtain ⟨positive, small⟩ := radix.base_bounds
  induction digits generalizing rounded total with
  | nil => exact denotes
  | cons digit rest ih =>
      have digitSmall : digit < limit :=
        Nat.lt_trans (withinRadix digit List.mem_cons_self) small
      have next : total * radix.base + digit ≤ limit :=
        Nat.le_trans (le_foldl_digits positive rest _) within
      have product := denotes.mul (denotes_ofNat small) (by
        rw [← Int.natCast_mul]
        omega)
      have sum := product.add (denotes_ofNat digitSmall) (by
        rw [← Int.natCast_mul, ← Int.natCast_add]
        omega)
      rw [← Int.natCast_mul, ← Int.natCast_add] at sum
      exact ih (fun other later => withinRadix other (List.mem_cons_of_mem digit later)) sum within

theorem Literal.denotes_roundedMagnitude {literal : Literal}
    (within : literal.magnitude ≤ limit) :
    Denotes literal.roundedMagnitude literal.magnitude := by
  have zero : Denotes 0 ((0 : Nat) : Int) := denotes_ofNat (by decide)
  exact denotes_foldl_digits literal.withinRadix zero within

theorem Literal.natAbs_toInt (literal : Literal) : literal.toInt.natAbs = literal.magnitude := by
  rw [Literal.toInt]
  split <;> omega

/-- A literal within the limit has the number that its digits spell. -/
theorem Literal.denotes_toFloat {literal : Literal} (within : literal.toInt.natAbs ≤ limit) :
    Denotes literal.toFloat literal.toInt := by
  rw [Literal.natAbs_toInt] at within
  have magnitude := Literal.denotes_roundedMagnitude within
  rw [Literal.toFloat, Literal.toInt]
  cases literal.negative
  · exact magnitude
  · exact magnitude.neg

theorem Radix.digitRun_append {radix : Radix} {text : List Char}
    (digits : ∀ char ∈ text, (radix.digit? char).isSome) (rest : List Char) :
    radix.digitRun (text ++ rest) = radix.digitRun text ++ radix.digitRun rest := by
  induction text with
  | nil => rfl
  | cons char later ih =>
      obtain ⟨digit, found⟩ := Option.isSome_iff_exists.mp (digits char List.mem_cons_self)
      have tail := ih fun other member => digits other (List.mem_cons_of_mem char member)
      simp only [List.cons_append, Radix.digitRun, found, tail]

theorem Radix.digit?_digitChar {digit : Nat} (small : digit < 10) :
    Radix.decimal.digit? digit.digitChar = some digit := by
  revert digit
  decide

/-- Each character of a decimal is the digit of a number below ten. -/
theorem exists_digitChar_of_mem_toDigits {natural : Nat} {char : Char}
    (member : char ∈ Nat.toDigits 10 natural) : ∃ digit < 10, char = digit.digitChar := by
  induction natural using Nat.strong_induction_on with
  | _ natural ih =>
      rcases Nat.lt_or_ge natural 10 with small | large
      · rw [Nat.toDigits_of_lt_base small, List.mem_singleton] at member
        exact ⟨natural, small, member⟩
      · rw [Nat.toDigits_of_base_le (by decide) large, List.mem_append,
          List.mem_singleton] at member
        rcases member with before | last
        · exact ih (natural / 10) (by omega) before
        · exact ⟨natural % 10, Nat.mod_lt natural (by decide), last⟩

theorem isSome_digit?_of_mem_toDigits {natural : Nat} :
    ∀ char ∈ Nat.toDigits 10 natural, (Radix.decimal.digit? char).isSome := by
  intro char member
  obtain ⟨digit, small, rfl⟩ := exists_digitChar_of_mem_toDigits member
  rw [Radix.digit?_digitChar small]
  rfl

/-- The digits of a decimal spell the number again. -/
theorem foldl_digitRun_toDigits (natural : Nat) :
    (Radix.decimal.digitRun (Nat.toDigits 10 natural)).foldl
      (fun total digit => total * 10 + digit) 0 = natural := by
  induction natural using Nat.strong_induction_on with
  | _ natural ih =>
      rcases Nat.lt_or_ge natural 10 with small | large
      · rw [Nat.toDigits_of_lt_base small]
        simp [Radix.digitRun, Radix.digit?_digitChar small]
      · have last := Radix.digit?_digitChar (Nat.mod_lt natural (by decide : 0 < 10))
        rw [Nat.toDigits_of_base_le (by decide) large,
          Radix.digitRun_append isSome_digit?_of_mem_toDigits, List.foldl_append,
          ih (natural / 10) (by omega)]
        simp only [Radix.digitRun, last, List.foldl_cons, List.foldl_nil]
        omega

theorem not_mem_toDigits (char : Char) (other : char.isDigit = false) (natural : Nat) :
    char ∉ Nat.toDigits 10 natural := by
  intro member
  have digit := Nat.isDigit_of_mem_toDigits (by decide) (by decide) member
  rw [other] at digit
  cases digit

theorem takeSign_toDigits (negative : Bool) (natural : Nat) :
    takeSign (writeSign negative ++ Nat.toDigits 10 natural) =
      (negative, Nat.toDigits 10 natural) := by
  cases negative with
  | true => rfl
  | false =>
      have minus := not_mem_toDigits '-' (by decide) natural
      have plus := not_mem_toDigits '+' (by decide) natural
      change takeSign (Nat.toDigits 10 natural) = _
      generalize Nat.toDigits 10 natural = digits at minus plus ⊢
      unfold takeSign
      split
      · exact absurd List.mem_cons_self minus
      · exact absurd List.mem_cons_self plus
      · rfl

theorem takeRadix_toDigits (natural : Nat) :
    takeRadix (Nat.toDigits 10 natural) = (.decimal, Nat.toDigits 10 natural) := by
  have b := not_mem_toDigits 'b' (by decide) natural
  have o := not_mem_toDigits 'o' (by decide) natural
  have x := not_mem_toDigits 'x' (by decide) natural
  generalize Nat.toDigits 10 natural = digits at b o x ⊢
  unfold takeRadix
  split
  · exact absurd (List.mem_cons_of_mem _ List.mem_cons_self) b
  · exact absurd (List.mem_cons_of_mem _ List.mem_cons_self) o
  · exact absurd (List.mem_cons_of_mem _ List.mem_cons_self) x
  · rfl

/-- A written integer holds a sign and digits, so it stands on a line and needs no trimming. -/
theorem solid_of_mem_decimal (negative : Bool) (natural : Nat) :
    ∀ char ∈ writeSign negative ++ Nat.toDigits 10 natural,
      Text.isBlank char = false ∧ char ≠ ',' ∧ char ≠ ';' ∧ char ≠ '\n' ∧ char ≠ '\x08' := by
  intro char member
  rcases List.mem_append.mp member with sign | digit
  · cases negative with
    | false => cases sign
    | true =>
        rw [List.mem_singleton.mp sign]
        decide
  · obtain ⟨value, small, rfl⟩ := exists_digitChar_of_mem_toDigits digit
    clear member digit
    revert value
    decide

theorem digitRun_toDigits_ne_nil (natural : Nat) :
    Radix.decimal.digitRun (Nat.toDigits 10 natural) ≠ [] := by
  intro empty
  obtain ⟨char, rest, found⟩ :=
    List.exists_cons_of_ne_nil (Nat.toDigits_ne_nil (n := natural) (b := 10))
  have first := isSome_digit?_of_mem_toDigits char (found ▸ List.mem_cons_self)
  obtain ⟨digit, read⟩ := Option.isSome_iff_exists.mp first
  rw [found] at empty
  simp [Radix.digitRun, read] at empty

/-- The literal with the given sign spells a natural number in decimal digits. -/
def Literal.decimal (negative : Bool) (natural : Nat) : Literal :=
  ⟨negative, .decimal, Radix.decimal.digitRun (Nat.toDigits 10 natural),
    digitRun_toDigits_ne_nil natural, Radix.decimal.digitRun_lt _⟩

/-- The text of an integer is read as a literal with its sign and its digits. -/
theorem Literal.ofChars?_decimal (negative : Bool) (natural : Nat) :
    Literal.ofChars? (writeSign negative ++ Nat.toDigits 10 natural) =
      some (Literal.decimal negative natural) := by
  have trimmed := Text.trim_of_tight (Text.tight_of_forall fun char member =>
    (solid_of_mem_decimal negative natural char member).1)
  simp only [Literal.ofChars?, trimmed, takeSign_toDigits, takeRadix_toDigits,
    dif_neg (digitRun_toDigits_ne_nil natural)]
  rfl

theorem Literal.toInt_decimal (negative : Bool) (natural : Nat) :
    (Literal.decimal negative natural).toInt =
      if negative then -(natural : Int) else natural := by
  have magnitude : (Literal.decimal negative natural).magnitude = natural :=
    foldl_digitRun_toDigits natural
  rw [Literal.toInt, magnitude]
  rfl

/-- The sign of a literal is kept also in front of a zero. -/
theorem Literal.decode_decimal_zero (negative : Bool) :
    decode (Literal.decimal negative 0).toFloat = .finite negative 0 0 := by
  cases negative <;> decide +kernel

/-- The text of a number that denotes an integer is a literal with the same bits. -/
theorem Literal.ofText?_written {value : Float} {integer : Int} (denotes : Denotes value integer)
    (within : integer.natAbs ≤ limit) :
    ∃ literal, Literal.ofText? (written value) = some literal ∧ literal.toFloat = value := by
  obtain ⟨negative, significand, exponent, found, digits, sign⟩ := denotes.decode_eq within
  refine ⟨Literal.decimal negative integer.natAbs, ?_, ?_⟩
  · rw [Literal.ofText?, written, String.toList_ofList, found, Decoded.write, digits]
    exact Literal.ofChars?_decimal negative integer.natAbs
  · have spelled : (Literal.decimal negative integer.natAbs).toInt = integer := by
      rw [Literal.toInt_decimal]
      by_cases zero : integer = 0
      · subst zero
        exact ite_self 0
      · rw [sign zero]
        by_cases below : integer < 0
        · rw [decide_eq_true below, if_pos rfl]
          omega
        · rw [decide_eq_false below, if_neg Bool.false_ne_true]
          omega
    have small : (Literal.decimal negative integer.natAbs).toInt.natAbs ≤ limit := by rwa [spelled]
    have read := Literal.denotes_toFloat small
    rw [spelled] at read
    obtain ⟨other, otherSignificand, otherExponent, otherFound, _, otherSign⟩ :=
      read.decode_eq within
    have sameSign : other = negative := by
      by_cases zero : integer = 0
      · subst zero
        rw [Int.natAbs_zero, Literal.decode_decimal_zero] at otherFound
        exact (Decoded.finite.inj otherFound).1.symm
      · rw [otherSign zero, sign zero]
    rw [sameSign] at otherFound
    exact Denotes.eq_of_sign otherFound found read denotes

end RegisterMachine
