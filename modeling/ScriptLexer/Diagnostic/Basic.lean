/-
ScriptLexer/Diagnostic/Basic.lean

Diagnostics: a fault and the name of the source it was met in, which is a path, or
the name of the session or of the program.  A diagnostic is reported to the user
in two lines: the name of the fault with its tip, then the source.
-/
import ScriptLexer.Diagnostic.Fault
import ScriptLexer.Token.Basic

namespace ScriptLexer

/-! ### The type -/

/-- A fault and where it was met. -/
structure Diagnostic where
  /-- What went wrong. -/
  fault : Fault
  /-- The name of the source. -/
  sourceName : String
  deriving DecidableEq, Repr

namespace Diagnostic

/-! ### Texts -/

/-- One line: the source, then what went wrong there. -/
def message (d : Diagnostic) : String :=
  d.sourceName ++ ": " ++ d.fault.message

/-- The description of a diagnostic. -/
def describe (d : Diagnostic) : String :=
  describeRecord "Error"
    [("internal_error", d.fault.describe), ("source_name", quotedText d.sourceName)]

/-- The first line of a report. -/
def headline (d : Diagnostic) : String :=
  match d.fault.tip? with
  | some tip => "Error: " ++ d.fault.name ++ " (" ++ tip ++ ")"
  | none => "Error: " ++ d.fault.name

/-- The report for the user: the fault, then the source. -/
def report (d : Diagnostic) : String :=
  d.headline ++ "\n-> " ++ d.sourceName

/-! ### Making diagnostics -/

/-- The diagnostic of a token, if it is an illegal character. -/
def ofToken? (sourceName : String) (t : Token) : Option Diagnostic :=
  if t.isIllegal then some ⟨.illegalCharacter t.literal, sourceName⟩ else none

/-- The diagnostic of the first illegal character among tokens, if there is one. -/
def firstIllegal? (sourceName : String) (tokens : List Token) : Option Diagnostic :=
  tokens.findSome? (ofToken? sourceName)

/-- The diagnostic of a file that could not be read: the source is the file. -/
def unreadable (path message : String) : Diagnostic :=
  ⟨.unreadableSource path message, path⟩

/-- The diagnostic of a command line with too many words.  The name of the
program is one of the words and no argument; a command line may even lack it. -/
def incorrectArguments (words : Nat) (sourceName : String) : Diagnostic :=
  ⟨.incorrectArguments (words - 1), sourceName⟩

end Diagnostic

end ScriptLexer
