/-
ScriptLexer/Scanner/Describe.lean

The description of a scanner: all of its fields, characters in quotes.  It is
what a developer sees of a scanner, so it shows the whole state and nothing else.
-/
import ScriptLexer.Scanner.Basic
import ScriptLexer.Text.Quoted
import ScriptLexer.Text.Record

namespace ScriptLexer

/-- The fields of a scanner, in order. -/
def Scanner.describe (s : Scanner) : String :=
  describeRecord "Lexer"
    [("input", describeList (s.input.toList.map quotedChar)),
     ("position", toString s.position),
     ("read_position", toString s.readPosition),
     ("ch", describeOption (s.current.map quotedChar)),
     ("finished", describeBool s.finished)]

end ScriptLexer
