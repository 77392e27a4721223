/-
This file divides the text of a literal into its sign, its radix, its digits and what is ignored.
Each text has one division, and the literal depends on the first three parts of it.
-/

import RegisterMachine.Proofs.Number.Spelled

namespace RegisterMachine

/-- A plus is a sign of its own, although it changes nothing. -/
inductive Literal.Sign where
  | absent
  | plus
  | minus
  deriving DecidableEq

def Literal.Sign.text : Literal.Sign → List Char
  | .absent => []
  | .plus => ['+']
  | .minus => ['-']

/-- Decimal digits need no marker. -/
def Radix.marker : Radix → List Char
  | .binary => ['0', 'b']
  | .octal => ['0', 'o']
  | .decimal => []
  | .hexadecimal => ['0', 'x']

/-- A digit is spelled as in ASCII, and a letter among the digits can be small or capital. -/
def Radix.Spells (radix : Radix) (char : Char) (digit : Nat) : Prop :=
  digit < radix.base ∧ (char = digit.digitChar ∨ char = digit.digitChar.toUpper)

/-- The parts of a text stand in this order. -/
structure Literal.Division where
  sign : Literal.Sign
  radix : Radix
  digits : List Char
  rest : List Char
  deriving DecidableEq

/-- The body is what follows the marker. -/
def Literal.Division.body (division : Literal.Division) : List Char :=
  division.digits ++ division.rest

/-- The unsigned text starts with the marker, if there is one. -/
def Literal.Division.unsigned (division : Literal.Division) : List Char :=
  division.radix.marker ++ division.body

/-- A sign and a marker are taken whenever they are there, and as many digits as follow them. -/
structure Literal.Division.Divides (division : Literal.Division) (text : List Char) : Prop where
  whole : text = division.sign.text ++ division.unsigned
  signTaken : division.sign = .absent → ∀ sign : Literal.Sign, sign ≠ .absent → ¬sign.text <+: text
  markerTaken : division.radix = .decimal → ∀ radix : Radix, radix ≠ .decimal →
    ¬radix.marker <+: division.body
  digits : ∀ char ∈ division.digits, ∃ digit, division.radix.Spells char digit
  longest : ∀ char ∈ division.rest.head?, ¬∃ digit, division.radix.Spells char digit

/-- A text has the division of what trimming leaves of it. -/
def Literal.Division.IsOf (division : Literal.Division) (text : String) : Prop :=
  ∃ trimmed, Text.Trims text.toList trimmed ∧ division.Divides trimmed

/-- The bytes of a text encode its characters one after another in UTF-8. -/
def Text.bytes (text : List Char) : List UInt8 :=
  text.flatMap String.utf8EncodeChar

/-- A sign is recognised by its byte, which is cut off. -/
def takeSignByte : List UInt8 → Bool × List UInt8
  | 0x2D :: rest => (true, rest)
  | 0x2B :: rest => (false, rest)
  | bytes => (false, bytes)

/-- A marker is recognised by its two bytes, which are cut off. -/
def takeRadixBytes : List UInt8 → Radix × List UInt8
  | 0x30 :: 0x62 :: rest => (.binary, rest)
  | 0x30 :: 0x6F :: rest => (.octal, rest)
  | 0x30 :: 0x78 :: rest => (.hexadecimal, rest)
  | bytes => (.decimal, bytes)

def Literal.Sign.take : List Char → Literal.Sign × List Char
  | '-' :: rest => (.minus, rest)
  | '+' :: rest => (.plus, rest)
  | text => (.absent, text)

/-- A character is a digit if it spells one. -/
def Radix.isDigit (radix : Radix) (char : Char) : Bool :=
  (radix.digit? char).isSome

/-- The division of a text is found from left to right. -/
def Literal.Division.ofText (text : List Char) : Literal.Division :=
  let (sign, unsigned) := Literal.Sign.take text
  let (radix, body) := takeRadix unsigned
  ⟨sign, radix, body.takeWhile radix.isDigit, body.dropWhile radix.isDigit⟩

/-- The digits and both cases of the letters are three ranges of code points. -/
theorem digitValue?_eq_some_iff {char : Char} {digit : Nat} :
    digitValue? char = some digit ↔
      digit < 10 ∧ char.toNat = digit + 48 ∨
        10 ≤ digit ∧ digit < 36 ∧ (char.toNat = digit + 87 ∨ char.toNat = digit + 55) := by
  have number : '0' ≤ char ∧ char ≤ '9' ↔ 48 ≤ char.toNat ∧ char.toNat ≤ 57 := Iff.rfl
  have small : 'a' ≤ char ∧ char ≤ 'z' ↔ 97 ≤ char.toNat ∧ char.toNat ≤ 122 := Iff.rfl
  have capital : 'A' ≤ char ∧ char ≤ 'Z' ↔ 65 ≤ char.toNat ∧ char.toNat ≤ 90 := Iff.rfl
  have zero : '0'.toNat = 48 := rfl
  have a : 'a'.toNat = 97 := rfl
  have capitalA : 'A'.toNat = 65 := rfl
  simp only [digitValue?, number, small, capital, zero, a, capitalA]
  split
  · rw [Option.some.injEq]
    omega
  · split
    · rw [Option.some.injEq]
      omega
    · split
      · rw [Option.some.injEq]
        omega
      · simp only [reduceCtorEq, false_iff]
        omega

theorem Radix.digit?_eq_some_iff {radix : Radix} {char : Char} {digit : Nat} :
    radix.digit? char = some digit ↔ radix.Spells char digit := by
  have low : ∀ digit < 10, digit.digitChar.toNat = digit + 48 ∧
      digit.digitChar.toUpper = digit.digitChar := by decide
  have high : ∀ digit < 16, 10 ≤ digit → digit.digitChar.toNat = digit + 87 ∧
      digit.digitChar.toUpper.toNat = digit + 55 := by decide
  have bound : radix.base ≤ 16 := by cases radix <;> decide
  simp only [Radix.digit?, Option.filter_eq_some_iff, decide_eq_true_eq, Radix.Spells,
    digitValue?_eq_some_iff, ← Char.toNat_inj]
  rcases Nat.lt_or_ge digit 10 with number | letter
  · rw [(low digit number).2, (low digit number).1]
    omega
  · constructor
    · rintro ⟨value, within⟩
      obtain ⟨small, capital⟩ := high digit (Nat.lt_of_lt_of_le within bound) letter
      omega
    · rintro ⟨within, spelled⟩
      obtain ⟨small, capital⟩ := high digit (Nat.lt_of_lt_of_le within bound) letter
      omega

theorem Radix.isDigit_iff {radix : Radix} {char : Char} :
    radix.isDigit char = true ↔ ∃ digit, radix.Spells char digit := by
  simp only [Radix.isDigit, Option.isSome_iff_exists, Radix.digit?_eq_some_iff]

/-- The run of digits spells its values one by one. -/
theorem Radix.forall₂_digitRun {radix : Radix} {digits : List Char}
    (all : ∀ char ∈ digits, ∃ digit, radix.Spells char digit) :
    List.Forall₂ radix.Spells digits (radix.digitRun digits) := by
  induction digits with
  | nil => exact .nil
  | cons char rest ih =>
      obtain ⟨digit, spelled⟩ := all char List.mem_cons_self
      simp only [Radix.digitRun, Radix.digit?_eq_some_iff.mpr spelled]
      exact .cons spelled (ih fun later member => all later (List.mem_cons_of_mem char member))

/-- What follows the longest run of digits is not read. -/
theorem Radix.digitRun_append_of_stop {radix : Radix} {digits rest : List Char}
    (all : ∀ char ∈ digits, ∃ digit, radix.Spells char digit)
    (stop : ∀ char ∈ rest.head?, ¬∃ digit, radix.Spells char digit) :
    radix.digitRun (digits ++ rest) = radix.digitRun digits := by
  have ended : radix.digitRun rest = [] := by
    cases rest with
    | nil => rfl
    | cons char later =>
        have stopped := stop char rfl
        rw [← Radix.isDigit_iff, Radix.isDigit, Option.not_isSome_iff_eq_none] at stopped
        simp only [Radix.digitRun, stopped]
  rw [Radix.digitRun_append (fun char member => Radix.isDigit_iff.mpr (all char member)),
    ended, List.append_nil]

theorem Literal.Sign.take_eq_iff {text unsigned : List Char} {sign : Literal.Sign} :
    Literal.Sign.take text = (sign, unsigned) ↔ text = sign.text ++ unsigned ∧
      (sign = .absent → ∀ other : Literal.Sign, other ≠ .absent → ¬other.text <+: text) := by
  constructor
  · intro taken
    unfold Literal.Sign.take at taken
    split at taken
    · cases taken
      exact ⟨rfl, nofun⟩
    · cases taken
      exact ⟨rfl, nofun⟩
    · next noMinus noPlus =>
        cases taken
        refine ⟨rfl, ?_⟩
        rintro - (_ | _ | _) other ⟨rest, rfl⟩
        · exact other rfl
        · exact noPlus rest rfl
        · exact noMinus rest rfl
  · rintro ⟨rfl, absent⟩
    cases sign with
    | minus => rfl
    | plus => rfl
    | absent =>
        unfold Literal.Sign.take
        split
        · next rest found => exact absurd ⟨rest, found.symm⟩ (absent rfl .minus nofun)
        · next rest found => exact absurd ⟨rest, found.symm⟩ (absent rfl .plus nofun)
        · rfl

theorem takeSign_of_take {text unsigned : List Char} {sign : Literal.Sign}
    (taken : Literal.Sign.take text = (sign, unsigned)) :
    takeSign text = (decide (sign = .minus), unsigned) := by
  unfold Literal.Sign.take at taken
  split at taken
  · cases taken
    rfl
  · cases taken
    rfl
  · next noMinus noPlus =>
      cases taken
      unfold takeSign
      split
      · next rest => exact absurd rfl (noMinus rest)
      · next rest => exact absurd rfl (noPlus rest)
      · rfl

theorem takeRadix_eq_iff {text body : List Char} {radix : Radix} :
    takeRadix text = (radix, body) ↔ text = radix.marker ++ body ∧
      (radix = .decimal → ∀ other : Radix, other ≠ .decimal → ¬other.marker <+: body) := by
  constructor
  · intro taken
    unfold takeRadix at taken
    split at taken
    · cases taken
      exact ⟨rfl, nofun⟩
    · cases taken
      exact ⟨rfl, nofun⟩
    · cases taken
      exact ⟨rfl, nofun⟩
    · next noBinary noOctal noHexadecimal =>
        cases taken
        refine ⟨rfl, ?_⟩
        rintro - (_ | _ | _ | _) other ⟨rest, rfl⟩
        · exact noBinary rest rfl
        · exact noOctal rest rfl
        · exact other rfl
        · exact noHexadecimal rest rfl
  · rintro ⟨rfl, decimal⟩
    cases radix with
    | binary => rfl
    | octal => rfl
    | hexadecimal => rfl
    | decimal =>
        change takeRadix body = (.decimal, body)
        unfold takeRadix
        split
        · next rest => exact absurd ⟨rest, rfl⟩ (decimal rfl .binary nofun)
        · next rest => exact absurd ⟨rest, rfl⟩ (decimal rfl .octal nofun)
        · next rest => exact absurd ⟨rest, rfl⟩ (decimal rfl .hexadecimal nofun)
        · rfl

/-- A text has no other division than the one that is found. -/
theorem Literal.Division.divides_iff {division : Literal.Division} {text : List Char} :
    division.Divides text ↔ Literal.Division.ofText text = division := by
  constructor
  · rintro ⟨whole, signTaken, markerTaken, digits, longest⟩
    have all : ∀ char ∈ division.digits, division.radix.isDigit char = true :=
      fun char member => Radix.isDigit_iff.mpr (digits char member)
    have none : division.rest.takeWhile division.radix.isDigit = [] ∧
        division.rest.dropWhile division.radix.isDigit = division.rest := by
      cases stopped : division.rest with
      | nil => exact ⟨rfl, rfl⟩
      | cons char later =>
          have other := longest char (by rw [stopped]; rfl)
          rw [← Radix.isDigit_iff] at other
          simp [other]
    have sign := Literal.Sign.take_eq_iff.mpr ⟨whole, signTaken⟩
    have radix : takeRadix division.unsigned = (division.radix, division.body) :=
      takeRadix_eq_iff.mpr ⟨rfl, markerTaken⟩
    simp only [Literal.Division.ofText, sign, radix, Literal.Division.body,
      List.takeWhile_append_of_pos all, List.dropWhile_append_of_pos all, none, List.append_nil]
  · rintro rfl
    rcases taken : Literal.Sign.take text with ⟨sign, unsigned⟩
    rcases marked : takeRadix unsigned with ⟨radix, body⟩
    obtain ⟨whole, signTaken⟩ := Literal.Sign.take_eq_iff.mp taken
    obtain ⟨rfl, markerTaken⟩ := takeRadix_eq_iff.mp marked
    have joined : body.takeWhile radix.isDigit ++ body.dropWhile radix.isDigit = body :=
      List.takeWhile_append_dropWhile
    simp only [Literal.Division.ofText, taken, marked]
    refine ⟨?_, signTaken, ?_, ?_, ?_⟩
    · simp only [Literal.Division.unsigned, Literal.Division.body, joined]
      exact whole
    · simp only [Literal.Division.body, joined]
      exact markerTaken
    · intro char member
      exact Radix.isDigit_iff.mp (List.mem_takeWhile_imp member)
    · intro char first
      have stopped := List.head?_dropWhile_not radix.isDigit body
      rw [Option.mem_def.mp first] at stopped
      rw [← Radix.isDigit_iff]
      simpa using stopped

/-- The literal of a division does not depend on what is ignored. -/
def Literal.Division.literal? (division : Literal.Division) : Option Literal :=
  if run : division.radix.digitRun division.digits = [] then none
  else some ⟨decide (division.sign = .minus), division.radix,
    division.radix.digitRun division.digits, run, division.radix.digitRun_lt division.digits⟩

theorem Literal.Division.Divides.takeSign {division : Literal.Division} {text : List Char}
    (divides : division.Divides text) :
    takeSign text = (decide (division.sign = .minus), division.unsigned) :=
  takeSign_of_take (Literal.Sign.take_eq_iff.mpr ⟨divides.whole, divides.signTaken⟩)

theorem Literal.Division.Divides.takeRadix {division : Literal.Division} {text : List Char}
    (divides : division.Divides text) :
    takeRadix division.unsigned = (division.radix, division.body) :=
  takeRadix_eq_iff.mpr ⟨rfl, divides.markerTaken⟩

theorem Literal.Division.Divides.ofChars? {division : Literal.Division} {text : List Char}
    (divides : division.Divides (Text.trim text)) :
    Literal.ofChars? text = division.literal? := by
  simp only [Literal.ofChars?, divides.takeSign, divides.takeRadix, Literal.Division.literal?,
    Literal.Division.body, Radix.digitRun_append_of_stop divides.digits divides.longest]

theorem Literal.Division.IsOf.ofText? {division : Literal.Division} {text : String}
    (parts : division.IsOf text) : Literal.ofText? text = division.literal? := by
  obtain ⟨trimmed, trims, divides⟩ := parts
  obtain rfl := Text.trims_iff.mp trims
  exact divides.ofChars?

/-- There is no literal exactly when there is no digit in its place. -/
theorem Literal.Division.Divides.digitRun_eq_nil_iff {division : Literal.Division}
    {text : List Char} (divides : division.Divides text) :
    division.radix.digitRun division.digits = [] ↔ division.digits = [] := by
  have spelled := (Radix.forall₂_digitRun divides.digits).length_eq
  rw [← List.length_eq_zero_iff, ← spelled, List.length_eq_zero_iff]

/-- A byte of ASCII at the front encodes the first character. -/
theorem Text.exists_of_bytes_cons {text : List Char} {byte : UInt8} {rest : List UInt8}
    (ascii : byte.toNat < 128) (encoded : Text.bytes text = byte :: rest) :
    ∃ later, text = Char.ofNat byte.toNat :: later ∧ Text.bytes later = rest := by
  cases text with
  | nil => cases encoded
  | cons char later =>
      rw [Text.bytes, List.flatMap_cons, String.utf8EncodeChar.eq_def] at encoded
      dsimp only at encoded
      split at encoded
      · next single =>
          obtain ⟨first, behind⟩ := List.cons.inj encoded
          change char.toNat ≤ 127 at single
          have same : byte.toNat = char.toNat := by
            rw [← first, UInt8.toNat_ofNat']
            exact Nat.mod_eq_of_lt (Nat.lt_of_le_of_lt single (by decide))
          exact ⟨later, by rw [same, Char.ofNat_toNat], behind⟩
      · -- The first byte of a longer encoding is no byte of ASCII.
        exfalso
        split at encoded
        · have first := congrArg UInt8.toNat (List.cons.inj encoded).1
          rw [UInt8.toNat_ofNat'] at first
          omega
        · split at encoded
          · have first := congrArg UInt8.toNat (List.cons.inj encoded).1
            rw [UInt8.toNat_ofNat'] at first
            omega
          · have first := congrArg UInt8.toNat (List.cons.inj encoded).1
            rw [UInt8.toNat_ofNat'] at first
            omega

/-- Cutting off the byte of a sign leaves the bytes of whole characters. -/
theorem takeSignByte_bytes (text : List Char) :
    takeSignByte (Text.bytes text) = (takeSign text).map id Text.bytes := by
  unfold takeSignByte
  split
  · next found =>
      obtain ⟨later, rfl, rfl⟩ := Text.exists_of_bytes_cons (by decide) found
      rfl
  · next found =>
      obtain ⟨later, rfl, rfl⟩ := Text.exists_of_bytes_cons (by decide) found
      rfl
  · next noMinus noPlus =>
      unfold takeSign
      split
      · next rest => exact absurd rfl (noMinus (Text.bytes rest))
      · next rest => exact absurd rfl (noPlus (Text.bytes rest))
      · rfl

theorem takeRadixBytes_bytes (text : List Char) :
    takeRadixBytes (Text.bytes text) = (takeRadix text).map id Text.bytes := by
  have marker {letter : UInt8} {rest : List UInt8} (ascii : letter.toNat < 128)
      (found : Text.bytes text = 0x30 :: letter :: rest) :
      ∃ later, text = '0' :: Char.ofNat letter.toNat :: later ∧ Text.bytes later = rest := by
    obtain ⟨behind, rfl, second⟩ := Text.exists_of_bytes_cons (by decide) found
    obtain ⟨later, rfl, rfl⟩ := Text.exists_of_bytes_cons ascii second
    exact ⟨later, rfl, rfl⟩
  unfold takeRadixBytes
  split
  · next found =>
      obtain ⟨later, rfl, rfl⟩ := marker (by decide) found
      rfl
  · next found =>
      obtain ⟨later, rfl, rfl⟩ := marker (by decide) found
      rfl
  · next found =>
      obtain ⟨later, rfl, rfl⟩ := marker (by decide) found
      rfl
  · next noBinary noOctal noHexadecimal =>
      unfold takeRadix
      split
      · next rest => exact absurd rfl (noBinary (Text.bytes rest))
      · next rest => exact absurd rfl (noOctal (Text.bytes rest))
      · next rest => exact absurd rfl (noHexadecimal (Text.bytes rest))
      · rfl

/-- The number takes in the digits from left to right, and a minus negates it in the end. -/
theorem Literal.Division.toFloat_literal? (division : Literal.Division) :
    division.literal?.map Literal.toFloat =
      if division.radix.digitRun division.digits = [] then none
      else
        let total := (division.radix.digitRun division.digits).foldl (fun total digit =>
          total * Float.ofNat division.radix.base + Float.ofNat digit) 0
        some (if division.sign = .minus then -total else total) := by
  rw [Literal.Division.literal?]
  split
  · rfl
  · simp only [Option.map_some, Literal.toFloat, Literal.roundedMagnitude, decide_eq_true_eq]

theorem Literal.Division.literal?_congr {division other : Literal.Division}
    (sign : division.sign = .minus ↔ other.sign = .minus) (radix : division.radix = other.radix)
    (digits : division.digits = other.digits) : division.literal? = other.literal? := by
  simp only [Literal.Division.literal?, sign, radix, digits]

/-- Trimming leaves one text, and that text has one division. Its digits decide whether there is a
literal, and its sign, its radix and its digits decide which one. Both cuts that are made at bytes
are made between characters. -/
theorem Literal.ofText?_divided (text : String) :
    ∃ trimmed division values,
      (∀ other, Text.Trims text.toList other ↔ other = trimmed) ∧
      (∀ other : Literal.Division, other.Divides trimmed ↔ other = division) ∧
      List.Forall₂ division.radix.Spells division.digits values ∧
      (Literal.ofText? text).map Literal.toFloat =
        (if division.digits = [] then none
        else
          let total := values.foldl (fun total digit =>
            total * Float.ofNat division.radix.base + Float.ofNat digit) 0
          some (if division.sign = .minus then -total else total)) ∧
      (∀ (other : String) (otherDivision : Literal.Division), otherDivision.IsOf other →
        (otherDivision.sign = .minus ↔ division.sign = .minus) →
        otherDivision.radix = division.radix → otherDivision.digits = division.digits →
        Literal.ofText? other = Literal.ofText? text) ∧
      takeSignByte (Text.bytes trimmed) =
        (decide (division.sign = .minus), Text.bytes division.unsigned) ∧
      takeRadixBytes (Text.bytes division.unsigned) =
        (division.radix, Text.bytes division.body) := by
  have divides := Literal.Division.divides_iff.mpr
    (rfl : Literal.Division.ofText (Text.trim text.toList) = _)
  generalize Literal.Division.ofText (Text.trim text.toList) = division at divides
  have parts : division.IsOf text := ⟨_, Text.trims_iff.mpr rfl, divides⟩
  refine ⟨Text.trim text.toList, division, division.radix.digitRun division.digits, ?_, ?_,
    Radix.forall₂_digitRun divides.digits, ?_, ?_, ?_, ?_⟩
  · intro other
    rw [Text.trims_iff, eq_comm]
  · intro other
    rw [Literal.Division.divides_iff, Literal.Division.divides_iff.mp divides, eq_comm]
  · rw [parts.ofText?, Literal.Division.toFloat_literal?]
    simp only [divides.digitRun_eq_nil_iff]
  · intro other otherDivision otherParts sign radix digits
    rw [parts.ofText?, otherParts.ofText?]
    exact Literal.Division.literal?_congr sign radix digits
  · rw [takeSignByte_bytes, divides.takeSign]
    rfl
  · rw [takeRadixBytes_bytes, divides.takeRadix]
    rfl

/-- A marker is taken even if no digit of its radix follows it. -/
example : Literal.Division.ofText "+0b2".toList = ⟨.plus, .binary, [], ['2']⟩ ∧
    Literal.Division.ofText "00x1".toList = ⟨.absent, .decimal, ['0', '0'], ['x', '1']⟩ := by
  decide +kernel

end RegisterMachine
