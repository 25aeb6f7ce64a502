/-
ScriptLexer/Scanner/Remainder.lean

The plainest source of tokens: the list of those that are left, and whether the
stream has ended.  There is no text, no cursor and no scanning in it, all the work
being done at the start; asking for a token takes it off the list.

It answers the same commands as the scanner (`ScriptLexer.Scanner.Pool`), and says
what their answers should be.
-/
import ScriptLexer.Scanner.Pool

namespace ScriptLexer

/-! ### The type -/

/-- The tokens that are left, the end left out, and whether the stream has ended. -/
structure Remainder where
  /-- The tokens before the end. -/
  tokens : List Token
  /-- Whether the end has been handed out by the stream. -/
  ended : Bool
  deriving DecidableEq, Repr

namespace Remainder

/-! ### Commands -/

/-- All tokens of a text. -/
def ofString (source : String) : Remainder :=
  ⟨(tokenize source).dropLast, false⟩

/-- Takes the first token off the list; with none left, the end, and nothing
changes. -/
def pull (r : Remainder) : Token × Remainder :=
  match r.tokens with
  | t :: rest => (t, { r with tokens := rest })
  | [] => (.eof, r)

/-- Takes a token for the stream, which ends with the end. -/
def next (r : Remainder) : Option Token × Remainder :=
  if r.ended then (none, r)
  else
    match r.pull with
    | (t, after) => (some t, if t.isEof then { after with ended := true } else after)

/-- Takes so many tokens and one more; the first that is missing is the answer. -/
def nth : Nat → Remainder → Option Token × Remainder
  | 0, r => r.next
  | n + 1, r =>
    match r.next with
    | (some _, after) => nth n after
    | (none, after) => (none, after)

/-- Takes all that is left, and the end. -/
def collect (r : Remainder) : List Token × Remainder :=
  (if r.ended then [] else r.tokens ++ [.eof], ⟨[], true⟩)

/-- The remaining tokens as a source of tokens. -/
def tokenSource : TokenSource Remainder where
  ofString := ofString
  pull := pull
  next := next
  nth := nth
  collect := collect

end Remainder

end ScriptLexer
