/-
This file proves that the displayed tokens of a source are a normal form of it.
A source may be malformed in places, for what could not be read leaves no trace in its tokens.
-/

import RegisterMachine.Proofs.Source.Display

namespace RegisterMachine

/-- The code of a token is everything but its line. -/
def Token.code (token : Token) : Opcode × List Argument :=
  (token.opcode, token.arguments)

/-- Renumbered tokens stand on the lines of a listing. -/
def Token.renumbered (tokens : List Token) : List Token :=
  tokens.mapIdx fun index token => { token with line := index + 1 }

/-- The normal form of a source lists the tokens that are read from it. -/
def Source.normalForm (source : String) : String :=
  Token.listing (Source.tokens source)

/-- Each line of the source can lose its only backspace. -/
def Source.SingleBackspaces (source : String) : Prop :=
  ∀ line ∈ Text.lines source.toList, line.count '\x08' ≤ 1

instance (source : String) : Decidable (Source.SingleBackspaces source) :=
  inferInstanceAs (Decidable (∀ line ∈ Text.lines source.toList, line.count '\x08' ≤ 1))

theorem Token.map_code_renumbered (tokens : List Token) :
    (Token.renumbered tokens).map Token.code = tokens.map Token.code := by
  apply List.ext_getElem
  · simp [Token.renumbered]
  · intro index _ _
    simp [Token.renumbered, Token.code]

/-- A listing shows nothing of the lines on which its tokens stood. -/
theorem Token.listing_congr {first second : List Token}
    (same : first.map Token.code = second.map Token.code) :
    Token.listing first = Token.listing second := by
  have spelled (tokens : List Token) : tokens.map Token.display =
      (tokens.map Token.code).map fun code => code.1.mnemonic ++ Argument.displayAll code.2 := by
    rw [List.map_map]
    rfl
  rw [Token.listing, Token.listing, spelled first, spelled second, same]

/-- The tokens of a source are read back from its normal form, and nothing else is found there. -/
theorem Source.tokens_normalForm {source : String} (single : Source.SingleBackspaces source)
    (nonempty : Source.tokens source ≠ []) :
    Source.tokens (Source.normalForm source) = Token.renumbered (Source.tokens source) ∧
      Source.errors (Source.normalForm source) = [] :=
  Token.read_listing nonempty fun _ => Source.printable_of_mem_tokens single

/-- A normal form has lost nothing but the lines of the tokens. -/
theorem Source.map_code_eq_iff {first second : String} (single : Source.SingleBackspaces first)
    (singleOther : Source.SingleBackspaces second) (nonempty : Source.tokens first ≠ []) :
    (Source.tokens first).map Token.code = (Source.tokens second).map Token.code ↔
      Source.normalForm first = Source.normalForm second := by
  refine ⟨Token.listing_congr, ?_⟩
  intro same
  have nonemptyOther : Source.tokens second ≠ [] := by
    intro none
    have empty : Source.normalForm second = "" := by rw [Source.normalForm, none]; rfl
    exact Token.listing_ne_empty nonempty (same.trans empty)
  have read := (Source.tokens_normalForm single nonempty).1
  have readOther := (Source.tokens_normalForm singleOther nonemptyOther).1
  calc (Source.tokens first).map Token.code
      = (Source.tokens (Source.normalForm first)).map Token.code := by
        rw [read, Token.map_code_renumbered]
    _ = (Source.tokens (Source.normalForm second)).map Token.code := by rw [same]
    _ = (Source.tokens second).map Token.code := by rw [readOther, Token.map_code_renumbered]

/-- The tokens of a source are read back from its normal form on the lines from one on, without an
error or a record.  A normal form is its own normal form.  Two sources have the same normal form if
and only if their tokens differ in their lines at most. -/
theorem Source.read_normalForm (source : String) (single : Source.SingleBackspaces source)
    (nonempty : Source.tokens source ≠ []) (buffer : Buffer) :
    let normal := Source.normalForm source
    Source.tokens normal = Token.renumbered (Source.tokens source) ∧
      Source.errors normal = [] ∧
      Sink.write buffer (Source.events normal) = buffer ∧
      Source.normalForm normal = normal ∧
      ∀ other, Source.SingleBackspaces other →
        ((Source.tokens source).map Token.code = (Source.tokens other).map Token.code ↔
          normal = Source.normalForm other) := by
  intro normal
  obtain ⟨tokens, errors⟩ := Source.tokens_normalForm single nonempty
  refine ⟨tokens, errors, ?_, ?_, ?_⟩
  · apply buffer.write_of_silent
    rw [Source.records_events, errors, List.map_nil]
  · apply Token.listing_congr
    rw [tokens, Token.map_code_renumbered]
  · intro other singleOther
    exact Source.map_code_eq_iff single singleOther nonempty

/-- The sample has an unknown opcode, an invalid argument, a string without an end and one that ends
in a quote.  A backspace stands inside its first mnemonic. -/
def Source.roughSample : String :=
  "; head\r\n\tl\x08od $a ,!-7; one\r\nfoo $b\n" ++
    "out \"say \"hi\"\"\nadd 5, $a, , %EQ\nout \"open , \"x \n\n"

/-- The same code is laid out in another way, and nothing of it is malformed. -/
def Source.plainSample : String :=
  "lod $a,!-7\nout \"say \"hi\"\"\n\n add $a,\x08%EQ ;x\nout \"open\",\"x"

theorem Source.read_normalForm_roughSample :
    let normal := "lod $a, !-7\nout \"say \"hi\"\"\nadd $a, %EQ\nout \"open\", \"x\""
    Source.normalForm Source.roughSample = normal ∧
      Source.normalForm Source.plainSample = normal ∧
      Source.normalForm normal = normal ∧
      (Source.tokens Source.roughSample).map Token.line = [2, 4, 5, 6] ∧
      (Source.tokens normal).map Token.line = [1, 2, 3, 4] ∧
      (Source.errors Source.roughSample).length = 2 ∧ Source.errors normal = [] ∧
      (Source.tokens Source.roughSample).map Token.code =
        (Source.tokens Source.plainSample).map Token.code := by
  intro normal
  have rough : Source.normalForm Source.roughSample = normal := by decide +kernel
  have plain : Source.normalForm Source.plainSample = normal := by decide +kernel
  obtain ⟨tokens, errors, -, fixed, same⟩ :=
    Source.read_normalForm Source.roughSample (by decide +kernel) (by decide +kernel) Buffer.empty
  rw [rough] at tokens errors fixed
  refine ⟨rough, plain, fixed, by decide +kernel, ?_, by decide +kernel, errors, ?_⟩
  · rw [tokens]
    decide +kernel
  · exact (same Source.plainSample (by decide +kernel)).mpr (rough.trans plain.symm)

end RegisterMachine
