/-
ScriptLexer/Proofs/Alphabet.lean

The classes of characters keep apart.

A blank belongs to no lexeme, so no class of lexeme characters holds one.  The
characters that begin a word, a number or a symbol are of three classes without
common members, so the order in which the scanner tries them does not matter:
whatever passes one of its tests fails the others.

Main statements: nothing that a token absorbs is a blank
(`Token.not_isBlank_of_absorbs`), and a letter or a digit begins no symbol
(`ofChar?_eq_none_of_isWordChar`).
-/
import ScriptLexer.Token.WellFormed

namespace ScriptLexer

/-! ### Blanks -/

theorem isBlank_iff {c : Char} :
    isBlank c = true ↔ c = ' ' ∨ c = '\t' ∨ c = '\n' ∨ c = '\r' := by
  simp only [isBlank, Bool.or_eq_true, beq_iff_eq, or_assoc]

theorem not_isWordChar_of_isBlank {c : Char} (h : isBlank c = true) :
    isWordChar c = false := by
  rcases isBlank_iff.mp h with rfl | rfl | rfl | rfl <;> decide

theorem not_isBlank_of_isWordChar {c : Char} (h : isWordChar c = true) :
    isBlank c = false := by
  rcases blank : isBlank c with - | -
  · rfl
  · rw [not_isWordChar_of_isBlank blank] at h
    cases h

/-- No token absorbs a blank: blanks keep tokens apart. -/
theorem Token.not_isBlank_of_absorbs {t : Token} {c : Char} (h : t.absorbs c = true) :
    isBlank c = false := by
  unfold absorbs at h
  split at h
  · exact not_isBlank_of_isWordChar h
  · exact not_isBlank_of_isWordChar h
  · exact not_isBlank_of_isWordChar (by rw [isWordChar, h, Bool.or_true])
  · rw [beq_iff_eq] at h
    subst h
    decide
  · rw [beq_iff_eq] at h
    subst h
    decide
  · cases h

/-! ### Letters and digits -/

theorem isWordChar_of_isLetter {c : Char} (h : isLetter c = true) : isWordChar c = true := by
  rw [isWordChar, h, Bool.true_or]

theorem isWordChar_of_isDigit {c : Char} (h : isDigit c = true) : isWordChar c = true := by
  rw [isWordChar, h, Bool.or_true]

theorem not_isLetter_of_isDigit {c : Char} (h : isDigit c = true) : isLetter c = false := by
  simp only [isDigit, Bool.and_eq_true, decide_eq_true_eq, Char.le_def] at h
  obtain ⟨low, high⟩ := h
  simp only [isLetter, Bool.or_eq_false_iff, Bool.and_eq_false_iff, decide_eq_false_iff_not,
    beq_eq_false_iff_ne, Char.le_def]
  refine ⟨⟨.inl ?_, .inl ?_⟩, ?_⟩
  · intro lower
    have := UInt32.le_trans lower high
    exact absurd this (by decide)
  · intro upper
    have := UInt32.le_trans upper high
    exact absurd this (by decide)
  · rintro rfl
    exact absurd high (by decide)

/-! ### Symbols -/

/-- A character that begins a symbol of two characters is a symbol itself. -/
theorem withEquals?_eq_none {c : Char} (h : Symbol.ofChar? c = none) :
    Symbol.withEquals? c = none := by
  unfold Symbol.withEquals?
  split
  · cases h
  · cases h
  · rfl

theorem ofPair?_eq_none {c : Char} (h : Symbol.withEquals? c = none)
    (following : Option Char) : Symbol.ofPair? c following = none := by
  unfold Symbol.ofPair?
  split
  · exact h
  · rfl

/-- Letters and digits begin no symbol. -/
theorem ofChar?_eq_none_of_isWordChar {c : Char} (h : isWordChar c = true) :
    Symbol.ofChar? c = none := by
  unfold Symbol.ofChar?
  -- each character of a symbol is spelled out, and each fails the test
  split <;> first | exact absurd h (by decide) | rfl

/-- Blanks begin no symbol. -/
theorem not_isBlank_of_ofChar? {c : Char} {symbol : Symbol}
    (h : Symbol.ofChar? c = some symbol) : isBlank c = false := by
  rcases blank : isBlank c with - | -
  · rfl
  · rcases isBlank_iff.mp blank with rfl | rfl | rfl | rfl <;> cases h

theorem eq_of_withEquals? {c : Char} {symbol : Symbol}
    (h : Symbol.withEquals? c = some symbol) : c = '=' ∨ c = '!' := by
  unfold Symbol.withEquals? at h
  split at h
  · exact .inl rfl
  · exact .inr rfl
  · cases h

end ScriptLexer
