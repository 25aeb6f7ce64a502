/-
ScriptLexer/Proofs/Layout.lean

The lexer reads back exactly what was written.

`Spells tokens text` says how a text is laid out from tokens, and scans nothing;
`tokenize` scans, and knows nothing of layouts.  Both come to the same
(`tokenize_eq_iff_spells`).  The two sides meet in `Lexes`: its condition, that
every token ends before the text behind it, is the condition on layouts that
tokens which would merge are kept apart (`keptApart_cons_iff`).  A layout looks
one token ahead and `Lexes` one character, so the step from the one to the other
is that the text behind a token begins with a blank, with the next token, or not
at all.

Which tokens merge can be told from their kinds (`Token.merges_iff`).
-/
import ScriptLexer.Layout
import ScriptLexer.Proofs.Lexeme
import ScriptLexer.Scanner.Unread

namespace ScriptLexer

/-! ### Which tokens merge -/

/-- A well-formed token that begins with a digit is a number. -/
theorem Token.Written.isDigit_iff {c : Char} {tail : List Char} {t : Token}
    (h : t.Written c tail) : isDigit c = true ↔ t.kind = .int := by
  cases h with
  | word letter _ =>
    constructor
    · intro digit
      rw [not_isLetter_of_isDigit digit] at letter
      cases letter
    · intro number
      exact absurd number (ofWord_ne_int _)
  | number digit _ => exact ⟨fun _ => rfl, fun _ => digit⟩
  | symbol single =>
    constructor
    · intro digit
      rw [ofChar?_eq_none_of_isWordChar (isWordChar_of_isDigit digit)] at single
      cases single
    · intro number
      cases number
  | pair two =>
    constructor
    · intro digit
      rcases eq_of_withEquals? two with rfl | rfl <;> exact absurd digit (by decide)
    · intro number
      cases number
  | foreign foreign =>
    constructor
    · intro digit
      simp [inAlphabet, digit] at foreign
    · intro number
      cases number

/-- A word merges with whatever begins with a letter or a digit, a number with a
number, and `=` and `!` with whatever begins with `=`; nothing else merges. -/
theorem Token.merges_iff {t u : Token} (fits : u.wellFormed = true) :
    t.merges u = true ↔
      ((t.kind = .ident ∨ t.kind.isKeyword = true) ∧ u.literal.toList.head?.any isWordChar = true)
        ∨ (t.kind = .int ∧ u.kind = .int)
        ∨ ((t.kind = .symbol .assign ∨ t.kind = .symbol .bang)
            ∧ u.literal.toList.head? = some '=') := by
  obtain ⟨c, tail, written⟩ := wellFormed_iff_written.mp fits
  rw [merges, written.literal_eq, List.head?_cons, ← written.isDigit_iff]
  obtain ⟨kind, literal⟩ := t
  cases kind with
  | symbol s => cases s <;> simp [absorbs, Kind.isKeyword]
  | _ => simp [absorbs, Kind.isKeyword]

/-! ### Layouts, piece by piece -/

theorem Layout.text_cons (piece : Piece) (pieces : List Piece) (tail : List Char) :
    Layout.text ⟨piece :: pieces, tail⟩
      = piece.gap ++ (piece.token.literal.toList ++ Layout.text ⟨pieces, tail⟩) := by
  simp only [Layout.text, Piece.text, List.flatMap_cons, List.append_assoc]

/-- With well-formed tokens and blanks in the gaps, a token is kept apart from the
next one exactly when it ends before the text behind it. -/
theorem keptApart_cons_iff {piece : Piece} {pieces : List Piece} {tail : List Char}
    (fit : ∀ p ∈ pieces, p.token.wellFormed = true ∧ p.gap.all isBlank = true)
    (blank : tail.all isBlank = true) :
    keptApart (piece :: pieces) = true ↔
      piece.token.EndsBefore (Layout.text ⟨pieces, tail⟩) ∧ keptApart pieces = true := by
  rcases pieces with - | ⟨second, others⟩
  · have ends : piece.token.EndsBefore (Layout.text ⟨[], tail⟩) :=
      Token.endsBefore_of_isBlank blank
    simp [keptApart, ends]
  · obtain ⟨fits, gap⟩ := fit second List.mem_cons_self
    rw [Layout.text_cons, keptApart, Bool.and_eq_true, Bool.or_eq_true, Bool.not_eq_true']
    -- the pieces behind are kept apart on either side; the first gap is at issue
    apply and_congr_left
    intro _
    rcases empty : second.gap with - | ⟨c, more⟩
    · -- no gap: the next token decides
      have nonempty := Token.literal_ne_nil fits
      rw [List.nil_append, Token.endsBefore_append nonempty, Token.endsBefore_literal_iff]
      simp
    · -- a gap: every token ends there
      rw [empty] at gap
      refine iff_of_true (.inr rfl) ?_
      rw [Token.endsBefore_append (List.cons_ne_nil c more)]
      exact Token.endsBefore_of_isBlank gap

/-- The pieces of a layout fit if every one of them does. -/
theorem fit_of_all {pieces : List Piece}
    (h : pieces.all (fun piece => piece.token.wellFormed && piece.gap.all isBlank) = true) :
    ∀ p ∈ pieces, p.token.wellFormed = true ∧ p.gap.all isBlank = true := by
  intro p mem
  have fits := List.all_eq_true.mp h p mem
  rwa [Bool.and_eq_true] at fits

/-- A layout is valid when its first piece is, ends before the rest, and the rest
is valid. -/
theorem Layout.valid_cons_iff {piece : Piece} {pieces : List Piece} {tail : List Char} :
    Layout.valid ⟨piece :: pieces, tail⟩ = true ↔
      piece.gap.all isBlank = true ∧ piece.token.wellFormed = true
        ∧ piece.token.EndsBefore (Layout.text ⟨pieces, tail⟩)
        ∧ Layout.valid ⟨pieces, tail⟩ = true := by
  simp only [Layout.valid, List.all_cons, Bool.and_eq_true]
  constructor
  · rintro ⟨⟨⟨⟨fits, gap⟩, others⟩, apart⟩, blank⟩
    obtain ⟨ends, apart⟩ := (keptApart_cons_iff (fit_of_all others) blank).mp apart
    exact ⟨gap, fits, ends, ⟨others, apart⟩, blank⟩
  · rintro ⟨gap, fits, ends, ⟨others, apart⟩, blank⟩
    have kept := (keptApart_cons_iff (fit_of_all others) blank).mpr ⟨ends, apart⟩
    exact ⟨⟨⟨⟨fits, gap⟩, others⟩, kept⟩, blank⟩

/-! ### Reading and writing -/

/-- What is laid out is lexed. -/
theorem lexes_of_valid {pieces : List Piece} {tail : List Char}
    (h : Layout.valid ⟨pieces, tail⟩ = true) :
    Lexes (Layout.text ⟨pieces, tail⟩) (pieces.map Piece.token) := by
  induction pieces with
  | nil =>
    refine .blank ?_
    simpa [Layout.valid, Layout.text, keptApart] using h
  | cons piece pieces ih =>
    obtain ⟨gap, fits, ends, rest⟩ := Layout.valid_cons_iff.mp h
    rw [Layout.text_cons]
    exact .token gap fits ends (ih rest)

/-- Whatever is lexed is laid out. -/
theorem Lexes.exists_layout {text : List Char} {tokens : List Token} (h : Lexes text tokens) :
    ∃ layout : Layout, layout.valid = true ∧ layout.tokens = tokens ∧ layout.text = text := by
  induction h with
  | @blank gap blank => exact ⟨⟨[], gap⟩, by simp [Layout.valid, keptApart, blank], rfl, rfl⟩
  | @token gap t rest ts gapBlank fits ends _ ih =>
    -- the token is laid out in front of the layout of the rest
    obtain ⟨⟨pieces, tail⟩, valid, rfl, rfl⟩ := ih
    refine ⟨⟨⟨gap, t⟩ :: pieces, tail⟩, ?_, rfl, ?_⟩
    · exact Layout.valid_cons_iff.mpr ⟨gapBlank, fits, ends, valid⟩
    · exact Layout.text_cons ⟨gap, t⟩ pieces tail

theorem spells_iff_lexes {tokens : List Token} {text : String} :
    Spells tokens text ↔ Lexes text.toList tokens := by
  constructor
  · rintro ⟨⟨pieces, tail⟩, valid, rfl, same⟩
    rw [← same]
    exact lexes_of_valid valid
  · intro h
    exact h.exists_layout

theorem dropLast_tokenize (source : String) :
    (tokenize source).dropLast = lexemes source.toList := by
  rw [tokenize_eq, List.dropLast_concat]

theorem tokenize_eq_append_eof_iff {source : String} {tokens : List Token} :
    tokenize source = tokens ++ [Token.eof] ↔ Lexes source.toList tokens := by
  rw [tokenize_eq, List.append_left_inj, lexemes_eq_iff]

/-- **The lexer inverts laying out.**  A text gives certain tokens exactly when it
is a way of writing them; and every text is a way of writing one list of tokens,
and of no other. -/
theorem tokenize_eq_iff_spells (source : String) :
    (∀ tokens, tokenize source = tokens ++ [Token.eof] ↔ Spells tokens source)
      ∧ ∃ tokens, Spells tokens source ∧ ∀ others, Spells others source → others = tokens := by
  refine ⟨?_, lexemes source.toList, ?_, ?_⟩
  · intro tokens
    rw [tokenize_eq_append_eof_iff, spells_iff_lexes]
  · rw [spells_iff_lexes]
    exact lexes_lexemes source.toList
  · intro others spelled
    exact (spells_iff_lexes.mp spelled).lexemes_eq.symm

end ScriptLexer
