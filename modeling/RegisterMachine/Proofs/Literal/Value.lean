/-
This file proves that the number of a literal depends on its sign and on the natural number that
its digits spell, as long as that number is within the limit.
-/

import RegisterMachine.Proofs.Literal.Division
import RegisterMachine.Proofs.Number.Sign

namespace RegisterMachine
open Number

/-- The digits spell a natural number in their radix, and the last one counts units. -/
def Literal.Division.Counts (division : Literal.Division) (natural : Nat) : Prop :=
  ∃ values, List.Forall₂ division.radix.Spells division.digits values ∧
    natural = Nat.ofDigits division.radix.base values.reverse

/-- Only a minus makes an integer negative. -/
def Literal.Sign.signed (sign : Literal.Sign) (natural : Nat) : Int :=
  if sign = .minus then -(natural : Int) else natural

theorem foldl_digits_eq_ofDigits (base : Nat) (values : List Nat) :
    values.foldl (fun total digit => total * base + digit) 0 =
      Nat.ofDigits base values.reverse := by
  rw [Nat.ofDigits_eq_foldr, List.foldr_reverse]
  simp only [Nat.cast_id, Nat.mul_comm, Nat.add_comm]

theorem Radix.eq_digitRun_of_forall₂ {radix : Radix} {digits : List Char} {values : List Nat}
    (spelled : List.Forall₂ radix.Spells digits values) : values = radix.digitRun digits := by
  induction spelled with
  | nil => rfl
  | cons first rest ih =>
      simp only [Radix.digitRun, Radix.digit?_eq_some_iff.mpr first, ← ih]

theorem Literal.Division.isOf_iff {division : Literal.Division} {text : String} :
    division.IsOf text ↔ division = Literal.Division.ofText (Text.trim text.toList) := by
  rw [eq_comm, ← Literal.Division.divides_iff]
  constructor
  · rintro ⟨trimmed, trims, divides⟩
    obtain rfl := Text.trims_iff.mp trims
    exact divides
  · intro divides
    exact ⟨_, Text.trims_iff.mpr rfl, divides⟩

/-- The digits of a division spell one natural number. -/
theorem Literal.Division.IsOf.counts_iff {division : Literal.Division} {text : String}
    (parts : division.IsOf text) {natural : Nat} :
    division.Counts natural ↔
      natural = (division.radix.digitRun division.digits).foldl
        (fun total digit => total * division.radix.base + digit) 0 := by
  obtain ⟨trimmed, -, divides⟩ := parts
  rw [foldl_digits_eq_ofDigits]
  constructor
  · rintro ⟨values, spelled, rfl⟩
    rw [Radix.eq_digitRun_of_forall₂ spelled]
  · rintro rfl
    exact ⟨_, Radix.forall₂_digitRun divides.digits, rfl⟩

/-- A number that is read has the literal of the division behind it. -/
theorem Literal.Division.IsOf.exists_literal {division : Literal.Division} {text : String}
    {number : Float} (parts : division.IsOf text)
    (accepted : (Literal.ofText? text).map Literal.toFloat = some number) :
    ∃ literal : Literal, literal.toFloat = number ∧
      literal.negative = decide (division.sign = .minus) ∧ division.Counts literal.magnitude := by
  obtain ⟨literal, read, found⟩ := Option.map_eq_some_iff.mp accepted
  rw [parts.ofText?, Literal.Division.literal?] at read
  split at read
  · cases read
  · refine ⟨literal, found, ?_⟩
    cases read
    exact ⟨rfl, parts.counts_iff.mpr rfl⟩

theorem Literal.Sign.signed_magnitude {sign : Literal.Sign} {literal : Literal}
    (negative : literal.negative = decide (sign = .minus)) :
    sign.signed literal.magnitude = literal.toInt := by
  rw [Literal.Sign.signed, Literal.toInt, negative]
  simp only [decide_eq_true_eq]

namespace Number

theorem Denotes.exists_decode {value : Float} {integer : Int} {negative : Bool}
    (denotes : Denotes value integer) (signed : sign? value = some (signOf negative)) :
    ∃ significand exponent, decode value = .finite negative significand exponent := by
  rw [sign?, unpack_eq_unpacked] at signed
  rw [Denotes] at denotes
  cases found : decode value with
  | notNumber =>
      rw [found] at denotes
      cases denotes
  | infinite other =>
      rw [found] at denotes
      cases denotes
  | finite other significand exponent =>
      rw [found, signOf?_unpacked_finite] at signed
      obtain rfl := signOf_inj.mp (Option.some.inj signed)
      exact ⟨significand, exponent, rfl⟩

/-- The value and the sign of an integral number determine it. -/
theorem Denotes.eq_of_sign? {left right : Float} {integer : Int} {negative : Bool}
    (denotesLeft : Denotes left integer) (denotesRight : Denotes right integer)
    (signedLeft : sign? left = some (signOf negative))
    (signedRight : sign? right = some (signOf negative)) : left = right := by
  obtain ⟨_, _, foundLeft⟩ := denotesLeft.exists_decode signedLeft
  obtain ⟨_, _, foundRight⟩ := denotesRight.exists_decode signedRight
  exact Denotes.eq_of_sign foundLeft foundRight denotesLeft denotesRight

end Number

/-- A literal within the limit is determined by its sign and its magnitude. -/
theorem Literal.toFloat_congr {first second : Literal} (sign : first.negative = second.negative)
    (magnitude : first.magnitude = second.magnitude) (within : first.magnitude ≤ limit) :
    first.toFloat = second.toFloat := by
  have same : first.toInt = second.toInt := by
    rw [Literal.toInt, Literal.toInt, sign, magnitude]
  have small : first.toInt.natAbs ≤ limit := by rwa [Literal.natAbs_toInt]
  have left := Literal.denotes_toFloat small
  have right := Literal.denotes_toFloat (same ▸ small)
  rw [← same] at right
  exact left.eq_of_sign? right first.sign?_toFloat (sign ▸ second.sign?_toFloat)

/-- A text that is a literal has one division, and its digits spell one natural number. The sign
decides about the first bit of its number, and within the limit the number is exact. Then it does
not depend on the spelling, and it is read again from the text that it is written as. -/
theorem Literal.ofText?_exact {text : String} {number : Float}
    (accepted : (Literal.ofText? text).map Literal.toFloat = some number) :
    ∃ division natural,
      (∀ other : Literal.Division, other.IsOf text ↔ other = division) ∧
      (∀ other, division.Counts other ↔ other = natural) ∧
      number.isNaN = false ∧
      number.toBits.toNat.testBit 63 = decide (division.sign = .minus) ∧
      (natural ≤ limit →
        Denotes number (division.sign.signed natural) ∧
        (Literal.ofText? (written number)).map Literal.toFloat = some number ∧
        ∀ (other : String) (otherNumber : Float) (otherDivision : Literal.Division),
          (Literal.ofText? other).map Literal.toFloat = some otherNumber →
          otherDivision.IsOf other → otherDivision.Counts natural →
          (otherDivision.sign = .minus ↔ division.sign = .minus) →
          otherNumber.toBits = number.toBits) := by
  obtain ⟨division, parts⟩ : ∃ division : Literal.Division, division.IsOf text :=
    ⟨_, Literal.Division.isOf_iff.mpr rfl⟩
  obtain ⟨literal, rfl, negative, counts⟩ := parts.exists_literal accepted
  refine ⟨division, literal.magnitude, ?_, ?_, literal.isNaN_toFloat, ?_, ?_⟩
  · intro other
    rw [Literal.Division.isOf_iff, ← Literal.Division.isOf_iff.mp parts]
  · intro other
    rw [parts.counts_iff, ← parts.counts_iff.mp counts]
  · rw [testBit_of_sign? literal.sign?_toFloat, negative]
  · intro within
    have small : literal.toInt.natAbs ≤ limit := by rwa [Literal.natAbs_toInt]
    have denotes := Literal.denotes_toFloat small
    refine ⟨?_, ?_, ?_⟩
    · rw [Literal.Sign.signed_magnitude negative]
      exact denotes
    · obtain ⟨again, read, same⟩ := Literal.ofText?_written denotes small
      rw [read, Option.map_some, same]
    · intro other otherNumber otherDivision otherAccepted otherParts otherCounts sign
      obtain ⟨otherLiteral, rfl, otherNegative, spelled⟩ :=
        otherParts.exists_literal otherAccepted
      have magnitude := (otherParts.counts_iff.mp spelled).trans
        (otherParts.counts_iff.mp otherCounts).symm
      have sameSign : otherLiteral.negative = literal.negative := by
        rw [otherNegative, negative, decide_eq_decide]
        exact sign
      rw [Literal.toFloat_congr sameSign magnitude (magnitude ▸ within)]

/-- The two texts spell one number, and so does the text that it is written as. -/
theorem Literal.ofText?_exact_hexadecimal :
    (Literal.ofText? " -0x1F.8 ").map Literal.toFloat = some (-31) ∧
      (-31 : Float).toBits.toNat.testBit 63 = true ∧ Denotes (-31) (-31) ∧
      (Literal.ofText? (written (-31))).map Literal.toFloat = some (-31) ∧
      ∀ number, (Literal.ofText? "-0b0011111").map Literal.toFloat = some number →
        number.toBits = (-31 : Float).toBits := by
  have accepted : (Literal.ofText? " -0x1F.8 ").map Literal.toFloat = some (-31) := by
    decide +kernel
  have parts : Literal.Division.IsOf ⟨.minus, .hexadecimal, ['1', 'F'], ['.', '8']⟩ " -0x1F.8 " :=
    Literal.Division.isOf_iff.mpr (by decide +kernel)
  have otherParts :
      Literal.Division.IsOf ⟨.minus, .binary, ['0', '0', '1', '1', '1', '1', '1'], []⟩
        "-0b0011111" :=
    Literal.Division.isOf_iff.mpr (by decide +kernel)
  obtain ⟨division, natural, divided, counted, -, first, exact⟩ := Literal.ofText?_exact accepted
  obtain rfl := (divided _).mp parts
  obtain rfl := (counted 31).mp (parts.counts_iff.mpr (by decide))
  obtain ⟨denotes, again, same⟩ := exact (by decide)
  refine ⟨accepted, first, denotes, again, ?_⟩
  intro number otherAccepted
  exact same _ number _ otherAccepted otherParts (otherParts.counts_iff.mpr (by decide)) Iff.rfl

end RegisterMachine
