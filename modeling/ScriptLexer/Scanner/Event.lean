/-
ScriptLexer/Scanner/Event.lean

What the scanner reports while it works: each token as it is handed out, and
before that, when the token is an illegal character, the character and where it
stands.  An event is a value; how much of it is kept and where it is written is
for the reader of the log to say.
-/
import ScriptLexer.Token.Basic

namespace ScriptLexer

/-! ### Events -/

/-- How much detail an event belongs to. -/
inductive Level where
  | debug
  | trace
  deriving DecidableEq, Repr

/-- The name of a level in the log. -/
def Level.name : Level → String
  | debug => "DEBUG"
  | trace => "TRACE"

/-- Something the scanner has to report. -/
inductive Event where
  /-- The character at the offset belongs to no token; characters are counted
  from zero. -/
  | illegal (character : Char) (offset : Nat)
  /-- The token has been read. -/
  | token (t : Token)
  deriving DecidableEq, Repr

namespace Event

/-- The level of an event: tokens are the finest detail. -/
def level : Event → Level
  | illegal _ _ => .debug
  | token _ => .trace

/-- The message of an event.  Whatever comes from the source is quoted. -/
def message : Event → String
  | illegal c offset => "illegal character " ++ quotedChar c ++ " at offset " ++ toString offset
  | token t => t.kind.name ++ " " ++ quotedText t.literal

end Event

end ScriptLexer
