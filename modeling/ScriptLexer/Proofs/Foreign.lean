/-
ScriptLexer/Proofs/Foreign.lean

The illegal tokens of a text are its characters outside the alphabet.

The alphabet is written out here, character by character (`alphabet`), and not
through the tests by which the scanner tells characters apart; that both come to
the same is checked once (`inAlphabet_eq_contains`).

A lexeme has no character outside the alphabet, or is nothing but one such
character: then, and only then, it is illegal (`Token.foreignChars_literal`).  Blanks
are in the alphabet.  So the illegal tokens of a text are its foreign characters,
each once and in order (`illegal_tokenize`), and the first illegal token, which a
run on a file fails by, is the first foreign character
(`Diagnostic.firstIllegal?_tokenize`).
-/
import ScriptLexer.Diagnostic.Basic
import ScriptLexer.Proofs.Layout

namespace ScriptLexer

/-! ### The alphabet, written out -/

/-- The characters of the language. -/
def alphabet : List Char :=
  (" \t\n\r" ++ "abcdefghijklmnopqrstuvwxyz" ++ "ABCDEFGHIJKLMNOPQRSTUVWXYZ" ++ "_"
    ++ "0123456789" ++ "=!+-*/<>(),;\x7b\x7d").toList

/-- The characters of a text outside the alphabet, in order. -/
def foreignChars (text : List Char) : List Char :=
  text.filter fun c => !alphabet.contains c

theorem toNat_lt_of_inAlphabet {c : Char} (h : inAlphabet c = true) : c.toNat < 128 := by
  have below {high : Char} (le : c ≤ high) : c.toNat ≤ high.toNat := UInt32.le_iff_toNat_le.mp le
  simp only [inAlphabet, Bool.or_eq_true, or_assoc] at h
  rcases h with blank | letter | digit | symbol
  · rcases isBlank_iff.mp blank with rfl | rfl | rfl | rfl <;> decide
  · simp only [isLetter, Bool.or_eq_true, Bool.and_eq_true, decide_eq_true_eq, beq_iff_eq] at letter
    rcases letter with (⟨-, high⟩ | ⟨-, high⟩) | rfl
    · exact Nat.lt_of_le_of_lt (below high) (by decide)
    · exact Nat.lt_of_le_of_lt (below high) (by decide)
    · decide
  · simp only [isDigit, Bool.and_eq_true, decide_eq_true_eq] at digit
    exact Nat.lt_of_le_of_lt (below digit.2) (by decide)
  · obtain ⟨s, spelled⟩ := Option.isSome_iff_exists.mp symbol
    unfold Symbol.ofChar? at spelled
    -- the characters of the symbols are spelled out, and each is ASCII
    split at spelled <;> first | decide | cases spelled

/-- The tests of the scanner pick out the alphabet. -/
theorem inAlphabet_eq_contains (c : Char) : inAlphabet c = alphabet.contains c := by
  -- on both sides there is only ASCII, which leaves 128 characters to compare
  have listed : alphabet.all (fun d => decide (d.toNat < 128)) = true := by decide +kernel
  have agree : ∀ n < 128, inAlphabet (Char.ofNat n) = alphabet.contains (Char.ofNat n) := by
    decide +kernel
  by_cases ascii : c.toNat < 128
  · have same := agree c.toNat ascii
    rwa [Char.ofNat_toNat] at same
  · have outside : inAlphabet c = false := by
      rw [Bool.eq_false_iff]
      intro inside
      exact ascii (toNat_lt_of_inAlphabet inside)
    have unlisted : c ∉ alphabet := by
      intro member
      exact ascii (of_decide_eq_true (List.all_eq_true.mp listed c member))
    rw [outside, List.contains_eq_mem, decide_eq_false unlisted]

theorem mem_alphabet_iff {c : Char} : c ∈ alphabet ↔ inAlphabet c = true := by
  rw [inAlphabet_eq_contains, List.contains_iff_mem]

/-! ### Foreign characters -/

theorem foreignChars_append (front back : List Char) :
    foreignChars (front ++ back) = foreignChars front ++ foreignChars back :=
  List.filter_append ..

theorem foreignChars_eq_nil_iff {text : List Char} :
    foreignChars text = [] ↔ ∀ c ∈ text, c ∈ alphabet := by
  simp [foreignChars, List.filter_eq_nil_iff]

theorem mem_alphabet_of_all_isBlank {gap : List Char} (blank : gap.all isBlank = true) :
    ∀ c ∈ gap, c ∈ alphabet := by
  intro c mem
  rw [mem_alphabet_iff, inAlphabet, List.all_eq_true.mp blank c mem]
  rfl

theorem foreignChars_of_isBlank {gap : List Char} (blank : gap.all isBlank = true) :
    foreignChars gap = [] :=
  foreignChars_eq_nil_iff.mpr (mem_alphabet_of_all_isBlank blank)

/-! ### One token -/

namespace Token

/-- An illegal token is a single foreign character. -/
theorem exists_char_of_isIllegal {t : Token} (fits : t.wellFormed = true)
    (bad : t.isIllegal = true) : ∃ c, t.literal = String.singleton c ∧ c ∉ alphabet := by
  rw [isIllegal, beq_iff_eq] at bad
  rw [wellFormed, bad] at fits
  obtain ⟨c, literal, outside⟩ := isForeign_iff.mp fits
  refine ⟨c, literal, ?_⟩
  rw [mem_alphabet_iff, outside]
  exact Bool.false_ne_true

/-- Every other token has no foreign character. -/
theorem mem_alphabet_of_not_isIllegal {t : Token} (fits : t.wellFormed = true)
    (good : t.isIllegal = false) : ∀ c ∈ t.literal.toList, c ∈ alphabet := by
  have word {c : Char} (h : isWordChar c = true) : c ∈ alphabet := by
    rw [mem_alphabet_iff, inAlphabet]
    rw [isWordChar, Bool.or_eq_true] at h
    rcases h with h | h <;> simp [h]
  obtain ⟨c, tail, written⟩ := wellFormed_iff_written.mp fits
  rw [written.literal_eq, List.forall_mem_cons]
  cases written with
  | word letter rest =>
    exact ⟨word (isWordChar_of_isLetter letter), fun d mem => word (List.all_eq_true.mp rest d mem)⟩
  | number digit rest =>
    exact ⟨word (isWordChar_of_isDigit digit),
      fun d mem => word (isWordChar_of_isDigit (List.all_eq_true.mp rest d mem))⟩
  | symbol single =>
    have inside : inAlphabet c = true := by simp [inAlphabet, isSymbolChar, single]
    exact ⟨mem_alphabet_iff.mpr inside, List.forall_mem_nil _⟩
  | pair two =>
    rw [List.forall_mem_singleton]
    rcases eq_of_withEquals? two with rfl | rfl <;> decide +kernel
  | foreign outside => cases good

/-- The foreign characters of a token: all of an illegal one, none of any other. -/
theorem foreignChars_literal {t : Token} (fits : t.wellFormed = true) :
    foreignChars t.literal.toList = if t.isIllegal then t.literal.toList else [] := by
  rcases bad : t.isIllegal with - | -
  · exact foreignChars_eq_nil_iff.mpr (mem_alphabet_of_not_isIllegal fits bad)
  · obtain ⟨c, literal, outside⟩ := exists_char_of_isIllegal fits bad
    simp [literal, foreignChars, outside]

end Token

/-! ### All tokens -/

/-- The illegal lexemes of a text are its foreign characters. -/
theorem Lexes.illegal_eq {text : List Char} {tokens : List Token} (h : Lexes text tokens) :
    (tokens.filter Token.isIllegal).map Token.literal
      = (foreignChars text).map String.singleton := by
  induction h with
  | blank gap => rw [foreignChars_of_isBlank gap]; rfl
  | @token gap t rest ts gap fits _ _ ih =>
    rw [foreignChars_append, foreignChars_append, foreignChars_of_isBlank gap, List.nil_append,
      Token.foreignChars_literal fits, List.map_append, ← ih]
    rcases bad : t.isIllegal with - | -
    · rw [List.filter_cons_of_neg (by simp [bad])]
      rfl
    · obtain ⟨c, literal, -⟩ := Token.exists_char_of_isIllegal fits bad
      rw [List.filter_cons_of_pos bad, List.map_cons, literal]
      simp

theorem illegal_tokenize (source : String) :
    ((tokenize source).filter Token.isIllegal).map Token.literal
      = (foreignChars source.toList).map String.singleton := by
  rw [tokenize_eq, List.filter_append, ← (lexes_lexemes source.toList).illegal_eq]
  simp [Token.isIllegal, Token.eof]

namespace Diagnostic

/-- The first illegal token decides. -/
theorem firstIllegal?_eq (name : String) (tokens : List Token) :
    firstIllegal? name tokens
      = ((tokens.filter Token.isIllegal).map Token.literal).head?.map
          fun literal => ⟨.illegalCharacter literal, name⟩ := by
  induction tokens with
  | nil => rfl
  | cons t ts ih =>
    rcases bad : t.isIllegal with - | -
    · rw [List.filter_cons_of_neg (by simp [bad]), ← ih]
      simp [firstIllegal?, ofToken?, bad]
    · rw [List.filter_cons_of_pos bad]
      simp [firstIllegal?, ofToken?, bad]

/-- The diagnostic of a text is that of its first foreign character. -/
theorem firstIllegal?_tokenize (name source : String) :
    firstIllegal? name (tokenize source)
      = (foreignChars source.toList).head?.map
          fun c => ⟨.illegalCharacter (String.singleton c), name⟩ := by
  rw [firstIllegal?_eq, illegal_tokenize, List.head?_map, Option.map_map]
  rfl

end Diagnostic

/-- The first foreign character is the one with only the alphabet before it. -/
theorem head?_foreignChars_eq_some_iff {text : List Char} {c : Char} :
    (foreignChars text).head? = some c ↔
      ∃ front back, text = front ++ c :: back ∧ (∀ d ∈ front, d ∈ alphabet) ∧ c ∉ alphabet := by
  rw [foreignChars, List.head?_filter, List.find?_eq_some_iff_append]
  simp only [Bool.not_eq_true', List.contains_eq_mem, decide_eq_false_iff_not, Bool.not_not,
    decide_eq_true_eq]
  constructor
  · rintro ⟨outside, front, back, rfl, inside⟩
    exact ⟨front, back, rfl, inside, outside⟩
  · rintro ⟨front, back, rfl, inside, outside⟩
    exact ⟨outside, front, back, rfl, inside⟩

/-- **The illegal tokens are the foreign characters**, one token for each and in
their order.  So a text has a diagnostic exactly when it leaves the alphabet, and
the diagnostic is about the place where it first does. -/
theorem illegal_tokens_eq_foreignChars (source : String) :
    ((tokenize source).filter Token.isIllegal).map Token.literal
        = (foreignChars source.toList).map String.singleton
      ∧ ∀ name,
          (Diagnostic.firstIllegal? name (tokenize source) = none
              ↔ ∀ c ∈ source.toList, c ∈ alphabet)
            ∧ ∀ d, Diagnostic.firstIllegal? name (tokenize source) = some d ↔
                ∃ front c back, source.toList = front ++ c :: back
                  ∧ (∀ b ∈ front, b ∈ alphabet) ∧ c ∉ alphabet
                  ∧ d = ⟨.illegalCharacter (String.singleton c), name⟩ := by
  refine ⟨illegal_tokenize source, ?_⟩
  intro name
  rw [Diagnostic.firstIllegal?_tokenize]
  refine ⟨?_, ?_⟩
  · rw [Option.map_eq_none_iff, List.head?_eq_none_iff, foreignChars_eq_nil_iff]
  · intro d
    rw [Option.map_eq_some_iff]
    constructor
    · rintro ⟨c, first, rfl⟩
      obtain ⟨front, back, same, inside, outside⟩ := head?_foreignChars_eq_some_iff.mp first
      exact ⟨front, c, back, same, inside, outside, rfl⟩
    · rintro ⟨front, c, back, same, inside, outside, rfl⟩
      exact ⟨c, head?_foreignChars_eq_some_iff.mpr ⟨front, back, same, inside, outside⟩, rfl⟩

end ScriptLexer
