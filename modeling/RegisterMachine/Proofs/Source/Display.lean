/-
This file proves that displayed tokens are read back.
The display of a token is one of its layouts, so this is a case of reading layouts.
-/

import RegisterMachine.Proofs.Source.Image

namespace RegisterMachine

/-- The pieces of a display have one space before each argument. -/
def Layout.Piece.displayed (arguments : List Argument)
    (onLine : ∀ argument ∈ arguments, argument.OnLine) : List Layout.Piece :=
  arguments.pmap (fun argument fits => .spelled Gap.space argument fits Gap.none) onLine

/-- The layout of a token has neither an indent nor a comment. -/
def Token.layout (token : Token) (onLine : ∀ argument ∈ token.arguments, argument.OnLine) :
    Layout :=
  .code Gap.none token.opcode (Layout.Piece.displayed token.arguments onLine) none

theorem Layout.Piece.map_text_displayed (arguments : List Argument)
    (onLine : ∀ argument ∈ arguments, argument.OnLine) :
    (Layout.Piece.displayed arguments onLine).map Layout.Piece.text =
      arguments.map fun argument => ' ' :: argument.display.toList := by
  induction arguments with
  | nil => rfl
  | cons first rest ih =>
      have tail := ih fun argument member => onLine argument (List.mem_cons_of_mem first member)
      have head : ([' '] ++ first.display.toList ++ [] : List Char) =
          ' ' :: first.display.toList := List.append_nil _
      rw [List.map_cons, ← tail, ← head]
      rfl

theorem Layout.Piece.arguments_displayed (arguments : List Argument)
    (onLine : ∀ argument ∈ arguments, argument.OnLine) :
    (Layout.Piece.displayed arguments onLine).filterMap Layout.Piece.argument? = arguments := by
  induction arguments with
  | nil => rfl
  | cons first rest ih =>
      have tail := ih fun argument member => onLine argument (List.mem_cons_of_mem first member)
      exact congrArg (first :: ·) tail

theorem Argument.toList_displayAll (arguments : List Argument) :
    (Argument.displayAll arguments).toList =
      [','].intercalate (arguments.map fun argument => ' ' :: argument.display.toList) := by
  cases arguments with
  | nil => rfl
  | cons first rest =>
      rw [Argument.displayAll]
      induction rest generalizing first with
      | nil => simp
      | cons next later ih =>
          have tail := ih next
          simp only [List.map_cons, List.intercalate_cons_cons] at tail ⊢
          rw [← tail]
          simp

/-- The layout of a token spells its display. -/
theorem Token.text_layout (token : Token)
    (onLine : ∀ argument ∈ token.arguments, argument.OnLine) :
    (token.layout onLine).text = token.display.toList := by
  rw [Token.layout, Layout.text, Layout.Piece.joined, Layout.Piece.map_text_displayed,
    ← Argument.toList_displayAll, Token.display, String.toList_append]
  simp [Gap.none]

theorem Token.token?_layout (token : Token)
    (onLine : ∀ argument ∈ token.arguments, argument.OnLine) (line : Nat) :
    (token.layout onLine).token? line = some ⟨line, token.opcode, token.arguments⟩ := by
  rw [Token.layout, Layout.token?, Layout.Piece.arguments_displayed]

/-- The listing of tokens has one line for each. -/
def Token.listing (tokens : List Token) : String :=
  "\n".intercalate (tokens.map Token.display)

/-- The layouts of the lines of a listing. -/
def Token.layouts (tokens : List Token)
    (onLine : ∀ token ∈ tokens, ∀ argument ∈ token.arguments, argument.OnLine) : List Layout :=
  tokens.pmap Token.layout onLine

theorem Token.source_layouts (tokens : List Token)
    (onLine : ∀ token ∈ tokens, ∀ argument ∈ token.arguments, argument.OnLine) :
    Layout.source (Token.layouts tokens onLine) = Token.listing tokens := by
  have lines : (Token.layouts tokens onLine).map Layout.text =
      (tokens.map Token.display).map String.toList := by
    induction tokens with
    | nil => rfl
    | cons first rest ih =>
        have tail := ih fun token member => onLine token (List.mem_cons_of_mem first member)
        have head := first.text_layout (onLine first List.mem_cons_self)
        rw [List.map_cons, List.map_cons, ← head, ← tail]
        rfl
  rw [Layout.source, lines, ← String.toList_inj, String.toList_ofList, Token.listing,
    String.toList_intercalate]
  rfl

theorem Token.tokens_layouts (tokens : List Token)
    (onLine : ∀ token ∈ tokens, ∀ argument ∈ token.arguments, argument.OnLine) :
    Layout.tokens (Token.layouts tokens onLine) =
      tokens.mapIdx fun index token => ⟨index + 1, token.opcode, token.arguments⟩ := by
  have lines : (Token.layouts tokens onLine).mapIdx
      (fun index layout => layout.token? (index + 1)) =
      (tokens.mapIdx fun index token => ⟨index + 1, token.opcode, token.arguments⟩).map some := by
    apply List.ext_getElem
    · simp [Token.layouts]
    · intro index _ _
      simp only [List.getElem_mapIdx, List.getElem_map, Token.layouts, List.getElem_pmap]
      exact Token.token?_layout _ _ _
  rw [Layout.tokens, lines, List.reduceOption, List.filterMap_map]
  exact List.filterMap_some

/-- The display of a token adds no backspace to its arguments. -/
theorem Token.noBackspace_display {token : Token}
    (printable : ∀ argument ∈ token.arguments, argument.Printable) :
    '\x08' ∉ token.display.toList := by
  intro member
  rw [Token.display, String.toList_append, List.mem_append, Argument.toList_displayAll] at member
  rcases member with word | inside
  · revert word
    cases token.opcode <;> decide
  rcases mem_intercalate inside with comma | ⟨part, among, within⟩
  · revert comma
    decide
  obtain ⟨argument, given, rfl⟩ := List.mem_map.mp among
  rw [Argument.toList_display, List.mem_cons, List.mem_cons, List.mem_append] at within
  rcases within with space | sigil | value | quote
  · revert space
    decide
  · revert sigil
    cases argument.kind <;> decide
  · exact (printable argument given).noBackspace value
  · revert quote
    cases argument.kind <;> decide

/-- A listing starts with a mnemonic. -/
theorem Token.listing_ne_empty {tokens : List Token} (nonempty : tokens ≠ []) :
    Token.listing tokens ≠ "" := by
  obtain ⟨first, rest, rfl⟩ := List.exists_cons_of_ne_nil nonempty
  have start : ∃ tail,
      (Token.listing (first :: rest)).toList = first.opcode.mnemonic.toList ++ tail := by
    rw [Token.listing, List.map_cons]
    cases rest with
    | nil =>
        rw [List.map_nil, String.intercalate_singleton, Token.display, String.toList_append]
        exact ⟨_, rfl⟩
    | cons next later =>
        rw [List.map_cons, String.intercalate_cons_cons, Token.display, String.append_assoc,
          String.append_assoc, String.toList_append]
        exact ⟨_, rfl⟩
  intro empty
  obtain ⟨tail, spelled⟩ := start
  have length := congrArg List.length spelled
  rw [empty, List.length_append, first.opcode.length_mnemonic] at length
  change 0 = 3 + tail.length at length
  omega

theorem Token.noBackspace_listing {tokens : List Token}
    (printable : ∀ token ∈ tokens, ∀ argument ∈ token.arguments, argument.Printable) :
    '\x08' ∉ (Token.listing tokens).toList := by
  intro member
  rw [Token.listing, String.toList_intercalate, List.map_map] at member
  rcases mem_intercalate member with newline | ⟨part, among, inside⟩
  · revert newline
    decide
  · obtain ⟨token, given, rfl⟩ := List.mem_map.mp among
    exact Token.noBackspace_display (printable token given) inside

/-- Displayed tokens are read back from their listing, without an error and on new lines. -/
theorem Token.read_listing {tokens : List Token} (nonempty : tokens ≠ [])
    (printable : ∀ token ∈ tokens, ∀ argument ∈ token.arguments, argument.Printable) :
    Source.tokens (Token.listing tokens) =
        tokens.mapIdx (fun index token => ⟨index + 1, token.opcode, token.arguments⟩) ∧
      Source.errors (Token.listing tokens) = [] := by
  have onLine : ∀ token ∈ tokens, ∀ argument ∈ token.arguments, argument.OnLine :=
    fun token member argument given => (printable token member argument given).toOnLine
  have source := Token.source_layouts tokens onLine
  have occupied : Layout.source (Token.layouts tokens onLine) ≠ "" := by
    rw [source]
    exact Token.listing_ne_empty nonempty
  have noBackspace : '\x08' ∉ (Layout.source (Token.layouts tokens onLine)).toList := by
    rw [source]
    exact Token.noBackspace_listing printable
  rw [← source, Layout.tokens_source occupied noBackspace, Token.tokens_layouts]
  exact ⟨rfl, Layout.errors_source occupied noBackspace⟩

end RegisterMachine
