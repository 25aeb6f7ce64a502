/-
ScriptLexer/Scanner/Basic.lean

The scanner and the movements of its cursor.

A scanner holds its whole input and a cursor: the character under the cursor is
kept at hand (`current`), together with its index (`position`) and the index of
the character after it (`readPosition`).  Past the end nothing is under the
cursor.  The one primitive movement is `advance`; everything else is a run of it
up to the first character that fails a test (`advanceWhile`).

Running stops because every step over a character lowers `remaining`, the number
of characters from the cursor on.  `remaining` is defined without assuming that
the fields agree with each other, so `advanceWhile` needs no such assumption.
-/
import ScriptLexer.Alphabet

namespace ScriptLexer

/-! ### The type -/

/-- A cursor over an input.  `finished` says that a stream has handed out the end
of the text (see `Scanner.next`); moving the cursor leaves it alone. -/
structure Scanner where
  /-- The characters of the source. -/
  input : Array Char
  /-- The index of the character under the cursor. -/
  position : Nat
  /-- The index of the character after it. -/
  readPosition : Nat
  /-- The character under the cursor, or nothing past the end. -/
  current : Option Char
  /-- Whether the stream of tokens has ended. -/
  finished : Bool
  deriving DecidableEq, Repr

namespace Scanner

/-! ### Movements -/

/-- Moves the cursor one character on. -/
def advance (s : Scanner) : Scanner :=
  { s with
    position := s.readPosition
    readPosition := s.readPosition + 1
    current := s.input[s.readPosition]? }

/-- A scanner at the beginning of a source. -/
def ofString (source : String) : Scanner :=
  advance
    { input := source.toList.toArray
      position := 0
      readPosition := 0
      current := none
      finished := false }

/-- The character after the one under the cursor. -/
def peek? (s : Scanner) : Option Char :=
  s.input[s.readPosition]?

/-- How many characters are left, the one under the cursor included. -/
def remaining (s : Scanner) : Nat :=
  s.input.size - s.readPosition + (if s.current.isSome then 1 else 0)

/-- A step over a character leaves fewer characters. -/
theorem remaining_advance_lt {s : Scanner} {c : Char} (h : s.current = some c) :
    s.advance.remaining < s.remaining := by
  have : s.remaining = s.input.size - s.readPosition + 1 := by simp [remaining, h]
  rw [this]
  by_cases inside : s.readPosition < s.input.size
  · simp [remaining, advance, inside]
    omega
  · simp [remaining, advance, inside]
    omega

/-- No step leaves more characters. -/
theorem remaining_advance_le (s : Scanner) : s.advance.remaining ≤ s.remaining := by
  by_cases inside : s.readPosition < s.input.size
  · simp [remaining, advance, inside]
    omega
  · simp [remaining, advance, inside]
    omega

/-- Moves the cursor to the first character that fails the test, or past the end
if there is none. -/
def advanceWhile (test : Char → Bool) (s : Scanner) : Scanner :=
  match _under : s.current with
  | some c => if test c then advanceWhile test s.advance else s
  | none => s
termination_by s.remaining
decreasing_by exact remaining_advance_lt ‹_›

/-- The text from an index up to the cursor. -/
def slice (s : Scanner) (start : Nat) : String :=
  String.ofList (s.input.extract start s.position).toList

/-- Moves the cursor over the characters that pass the test and gives their
text. -/
def takeRun (test : Char → Bool) (s : Scanner) : String × Scanner :=
  let after := s.advanceWhile test
  (after.slice s.position, after)

/-- Moves the cursor over the blanks that stand under it. -/
def skipBlanks (s : Scanner) : Scanner :=
  s.advanceWhile isBlank

/-! ### Moving never gains characters -/

theorem remaining_advanceWhile_le (test : Char → Bool) (s : Scanner) :
    (s.advanceWhile test).remaining ≤ s.remaining := by
  fun_induction advanceWhile test s with
  | case1 s c h pass ih => exact Nat.le_trans ih (Nat.le_of_lt (remaining_advance_lt h))
  | case2 s c h fail => exact Nat.le_refl _
  | case3 s h => exact Nat.le_refl _

/-- Where no character passes, there is nothing to move over. -/
theorem advanceWhile_of_stops {test : Char → Bool} {s : Scanner}
    (stops : s.current.any test = false) : s.advanceWhile test = s := by
  rw [advanceWhile.eq_def]
  split
  next c under =>
    rw [under] at stops
    exact if_neg (Bool.eq_false_iff.mp stops)
  next => rfl

/-- A run over a character that passes leaves fewer characters. -/
theorem remaining_advanceWhile_lt {test : Char → Bool} {s : Scanner} {c : Char}
    (h : s.current = some c) (pass : test c = true) :
    (s.advanceWhile test).remaining < s.remaining := by
  rw [advanceWhile.eq_def]
  split
  next d hd =>
    obtain rfl : c = d := Option.some.inj (h.symm.trans hd)
    rw [if_pos pass]
    exact Nat.lt_of_le_of_lt (remaining_advanceWhile_le ..) (remaining_advance_lt h)
  next hn => exact absurd (h.symm.trans hn) (Option.some_ne_none c)

end Scanner

end ScriptLexer
