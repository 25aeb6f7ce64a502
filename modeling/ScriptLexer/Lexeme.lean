/-
ScriptLexer/Lexeme.lean

Lexing as a function of the text that is left to read, without a cursor.

A text that does not begin with a blank begins with a lexeme, and the longest one
counts: `splitLexeme` cuts it off.  The tokens of a text (`lexemes`) are the
lexemes between its blanks.  What the scanner does with positions is what is said
here of lists (see `ScriptLexer.Scanner.Unread`), so what is wanted of tokens is
shown here.

Main statements: cutting off a lexeme loses nothing (`literal_append_splitLexeme`)
and takes at least one character (`length_splitLexeme_lt`).
-/
import ScriptLexer.Alphabet
import ScriptLexer.Token.Basic

namespace ScriptLexer

/-! ### Cutting off one lexeme -/

/-- The token at the beginning of a text that begins with `c`, which is no blank,
and goes on with `rest`; and the text after it. -/
def splitLexeme (c : Char) (rest : List Char) : Token × List Char :=
  match Symbol.ofPair? c rest.head? with
  | some symbol => (⟨.symbol symbol, String.ofList [c, '=']⟩, rest.tail)
  | none =>
    match Symbol.ofChar? c with
    | some symbol => (⟨.symbol symbol, String.singleton c⟩, rest)
    | none =>
      if isLetter c then
        let word := String.ofList (c :: rest.takeWhile isWordChar)
        (⟨.ofWord word, word⟩, rest.dropWhile isWordChar)
      else if isDigit c then
        (⟨.int, String.ofList (c :: rest.takeWhile isDigit)⟩, rest.dropWhile isDigit)
      else (⟨.illegal, String.singleton c⟩, rest)

/-- A symbol of two characters needs an `=` to follow. -/
theorem ofPair?_eq_some {c : Char} {following : Option Char} {symbol : Symbol}
    (h : Symbol.ofPair? c following = some symbol) : following = some '=' := by
  unfold Symbol.ofPair? at h
  split at h
  · assumption
  · exact nomatch h

/-- A lexeme and the text after it are the text. -/
theorem literal_append_splitLexeme (c : Char) (rest : List Char) :
    (splitLexeme c rest).1.literal.toList ++ (splitLexeme c rest).2 = c :: rest := by
  unfold splitLexeme
  split
  next symbol pair =>
    obtain ⟨tail, rfl⟩ := List.head?_eq_some_iff.mp (ofPair?_eq_some pair)
    simp
  next => split
          next => simp
          next => split
                  next => simp
                  next => split <;> simp

/-- A lexeme has at least one character. -/
theorem literal_splitLexeme_ne_nil (c : Char) (rest : List Char) :
    (splitLexeme c rest).1.literal.toList ≠ [] := by
  unfold splitLexeme
  split
  next => simp
  next => split
          next => simp
          next => split
                  next => simp
                  next => split <;> simp

theorem length_splitLexeme_lt (c : Char) (rest : List Char) :
    (splitLexeme c rest).2.length < (c :: rest).length := by
  have whole := congrArg List.length (literal_append_splitLexeme c rest)
  have nonempty := List.length_pos_iff.mpr (literal_splitLexeme_ne_nil c rest)
  simp only [List.length_append] at whole
  omega

/-- A lexeme is not the end. -/
theorem isEof_splitLexeme (c : Char) (rest : List Char) :
    (splitLexeme c rest).1.isEof = false := by
  unfold splitLexeme
  split
  next => rfl
  next => split
          next => rfl
          next => split
                  next => simp [Token.isEof]
                  next => split <;> rfl

/-! ### All lexemes -/

/-- The tokens of a text, without the end. -/
def lexemes (text : List Char) : List Token :=
  match _left : text.dropWhile isBlank with
  | [] => []
  | c :: rest => (splitLexeme c rest).1 :: lexemes (splitLexeme c rest).2
termination_by text.length
decreasing_by
  have shorter := length_splitLexeme_lt c rest
  have dropped := (List.dropWhile_suffix (l := text) isBlank).length_le
  rw [‹text.dropWhile isBlank = c :: rest›] at dropped
  omega

theorem lexemes_of_nil {text : List Char} (h : text.dropWhile isBlank = []) :
    lexemes text = [] := by
  rw [lexemes.eq_def]
  split
  next => rfl
  next c rest more => exact absurd (more.symm.trans h) (List.cons_ne_nil c rest)

theorem lexemes_of_cons {text rest : List Char} {c : Char}
    (h : text.dropWhile isBlank = c :: rest) :
    lexemes text = (splitLexeme c rest).1 :: lexemes (splitLexeme c rest).2 := by
  rw [lexemes.eq_def]
  split
  next nothing => exact absurd (h.symm.trans nothing) (List.cons_ne_nil c rest)
  next d others more =>
    obtain ⟨rfl, rfl⟩ := List.cons.inj (h.symm.trans more)
    rfl

end ScriptLexer
