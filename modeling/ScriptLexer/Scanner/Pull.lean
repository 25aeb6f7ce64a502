/-
ScriptLexer/Scanner/Pull.lean

Pulling one token.  After the blanks, the character under the cursor decides:
nothing is the end of the text; `=` and `!` look one character further; a letter
takes the longest word and a digit the longest number; the other symbols stand
alone; and whatever is left is an illegal character, which is a token of its own
and never an error.  There is no state between tokens but the cursor.

A pull also says where the lexeme begins and what there is to report, so that the
log of a run and the places of its tokens can be read off the pulls.
-/
import ScriptLexer.Scanner.Basic
import ScriptLexer.Scanner.Event

namespace ScriptLexer

/-! ### The result of a pull -/

/-- What one pull gives. -/
structure Pull where
  /-- The token. -/
  token : Token
  /-- The index where its text begins. -/
  start : Nat
  /-- What there is to report, in order. -/
  events : List Event
  /-- The scanner, with the cursor just after the token. -/
  after : Scanner
  deriving DecidableEq, Repr

namespace Scanner

/-! ### The cases -/

/-- Hands out a token that began at `start`, and reports it. -/
def emit (s : Scanner) (kind : Kind) (literal : String) (start : Nat) : Pull :=
  { token := ⟨kind, literal⟩
    start := start
    events := [.token ⟨kind, literal⟩]
    after := s }

/-- The end of the text: the same token as often as it is asked for, and nothing
to report. -/
def pullEnd (s : Scanner) : Pull :=
  { token := .eof, start := s.position, events := [], after := s }

/-- A symbol of two characters. -/
def pullPair (s : Scanner) (symbol : Symbol) : Pull :=
  let after := s.advance.advance
  after.emit (.symbol symbol) (after.slice s.position) s.position

/-- A symbol of one character. -/
def pullSymbol (s : Scanner) (symbol : Symbol) (c : Char) : Pull :=
  s.advance.emit (.symbol symbol) (String.singleton c) s.position

/-- A word: reserved, or an identifier. -/
def pullWord (s : Scanner) : Pull :=
  let (word, after) := s.takeRun isWordChar
  after.emit (.ofWord word) word s.position

/-- An integer. -/
def pullNumber (s : Scanner) : Pull :=
  let (digits, after) := s.takeRun isDigit
  after.emit .int digits s.position

/-- A character that belongs to nothing.  It is reported before its token. -/
def pullIllegal (s : Scanner) (c : Char) : Pull :=
  let pulled := s.advance.emit .illegal (String.singleton c) s.position
  { pulled with events := .illegal c s.position :: pulled.events }

/-- The token that begins with the character `c` under the cursor. -/
def pullFrom (s : Scanner) (c : Char) : Pull :=
  match Symbol.ofPair? c s.peek? with
  | some symbol => s.pullPair symbol
  | none =>
    match Symbol.ofChar? c with
    | some symbol => s.pullSymbol symbol c
    | none =>
      if isLetter c then s.pullWord
      else if isDigit c then s.pullNumber
      else s.pullIllegal c

/-! ### The pull -/

/-- Reads the next token. -/
def pull (s : Scanner) : Pull :=
  let here := s.skipBlanks
  match here.current with
  | some c => here.pullFrom c
  | none => here.pullEnd

/-! ### Every token but the end takes a character -/

theorem remaining_pullFrom_lt {s : Scanner} {c : Char} (h : s.current = some c) :
    (s.pullFrom c).after.remaining < s.remaining := by
  unfold pullFrom
  split
  · -- two characters
    exact Nat.lt_of_le_of_lt (remaining_advance_le s.advance) (remaining_advance_lt h)
  · split
    · -- one character
      exact remaining_advance_lt h
    · split
      next letter => exact remaining_advanceWhile_lt h (by simp [isWordChar, letter])
      next => split
              next digit => exact remaining_advanceWhile_lt h digit
              next => exact remaining_advance_lt h

theorem remaining_pull_lt {s : Scanner} (h : s.pull.token.isEof = false) :
    s.pull.after.remaining < s.remaining := by
  rcases here : s.skipBlanks.current with - | c
  · simp [pull, here, pullEnd, Token.eof, Token.isEof] at h
  · have shorter := remaining_pullFrom_lt here
    simp only [pull, here]
    exact Nat.lt_of_lt_of_le shorter (remaining_advanceWhile_le ..)

end Scanner

end ScriptLexer
