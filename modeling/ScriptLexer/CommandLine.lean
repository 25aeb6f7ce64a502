/-
ScriptLexer/CommandLine.lean

The command line: without an argument a session, with one the tokens of a file,
with more a complaint.  There are no options, so any argument is a path.

A run is a function of its arguments and of what it finds around it: files, the
standard input, the kind of terminal and the editor that reads lines.  The time that
lexing took is measured by the caller and only passed through.
-/
import ScriptLexer.Session

namespace ScriptLexer

/-! ### Surroundings -/

/-- What a run finds around it. -/
structure Environment where
  /-- The files. -/
  read : FileReader
  /-- The standard input. -/
  stdin : ByteArray
  /-- The name of the terminal. -/
  terminal : String
  /-- The editor.  The standard input is taken for no terminal if nothing else is
  said. -/
  editor : LineEditor := LineEditor.piped

namespace CommandLine

/-- The name of the program, as a source of complaints about its arguments. -/
def programName : String := "monkey"

/-! ### A file -/

/-- The tokens of a file. -/
def lexFile (read : FileReader) (path : String) : Except Diagnostic (List Token) :=
  (readSource read path).map tokenize

/-- The line that says how long lexing took. -/
def timeLine (elapsed : String) : String :=
  "Tokenized in " ++ elapsed

/-- Prints the tokens of a file, all of them, and the time.  The run fails by the
first illegal character. -/
def listFile (path elapsed : String) (tokens : List Token) : Outcome :=
  Outcome.ending (linesText (tokens.map Token.display ++ [timeLine elapsed]))
    (Diagnostic.firstIllegal? path tokens)

/-- A run on one file.  Nothing is printed of a file that cannot be read. -/
def runFile (read : FileReader) (path elapsed : String) : Outcome :=
  match lexFile read path with
  | .ok tokens => listFile path elapsed tokens
  | .error d => Outcome.ending "" (some d)

/-! ### The program -/

/-- The run for given arguments, the name of the program not among them. -/
def run (arguments : List String) (env : Environment) (elapsed : String) : Outcome :=
  match arguments with
  | [] => Session.run env.editor env.terminal env.stdin
  | [path] => runFile env.read path elapsed
  | _ :: _ :: _ =>
    Outcome.ending "" (some (Diagnostic.incorrectArguments (arguments.length + 1) programName))

end CommandLine

end ScriptLexer
