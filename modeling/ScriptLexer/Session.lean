/-
ScriptLexer/Session.lean

The session: lines are read and the tokens of each are printed.

Each line is lexed on its own.  A blank line prints nothing, and one that was
interrupted prints a mark.  An illegal character is printed like any token; only a
line that cannot be had ends a session early.  A prompt goes to the editor with
each read, the one that meets the end of the input included.

What a session does at an answer of its editor is a function of the answer alone
(`Session.turn`).  Here the turns are taken over lines that are all there
(`Session.converse`); the program takes the same turns over lines as they come
(`ScriptLexer.Main`).
-/
import ScriptLexer.LineEditor
import ScriptLexer.Outcome
import ScriptLexer.Scanner.Stream
import ScriptLexer.Text.Blank

namespace ScriptLexer

/-! ### Listing the tokens of a text -/

/-- The tokens of a text before its end, as they are printed. -/
def listTokens (text : String) : List String :=
  ((tokenize text).takeWhile fun t => !t.isEof).map Token.display

namespace Session

/-! ### Answering a line -/

/-- The prompt. -/
def prompt : String := ">> "

/-- The name of the session as a source. -/
def sourceName : String := "repl"

/-- What a session fails by when its editor fails. -/
def failure (message : String) : Diagnostic :=
  ⟨.readlineFailure message, sourceName⟩

/-- What is printed for a line. -/
def answer (line : String) : List String :=
  if isBlankText line then [] else listTokens line

/-- What is printed for a line that was interrupted. -/
def interruption : List String := ["^C"]

/-! ### Turns -/

/-- What an answer of the editor makes of a session. -/
inductive Turn where
  /-- Lines are printed, and the session goes on. -/
  | goesOn (shown : List String)
  /-- The session is over.  It fails by the diagnostic, if there is one. -/
  | ends (verdict : Option Diagnostic)
  deriving DecidableEq, Repr

/-- The turn that a session takes at an answer of its editor. -/
def turn : Reading → Turn
  | .line text => .goesOn (answer text)
  | .interrupted => .goesOn interruption
  | .closed => .ends none
  | .failed message => .ends (some (failure message))

/-! ### The session -/

/-- Takes a turn for each line, up to the one that ends the session.  `prompting` is
written before each read and `printed` is the output so far; the result is the whole
output and what the session fails by, if it fails. -/
def converse (editor : LineEditor) (prompting printed : String) :
    List (List UInt8) → String × Option Diagnostic
  | [] => (printed ++ prompting, none)
  | bytes :: rest =>
    match turn (editor.reading bytes) with
    | .goesOn shown =>
      converse editor prompting (printed ++ prompting ++ linesText shown) rest
    | .ends verdict => (printed ++ prompting, verdict)

section Converse

variable {editor : LineEditor} {bytes : List UInt8}

/-- What was printed before stays in front. -/
theorem converse_append (prompting printed : String) (lines : List (List UInt8)) :
    converse editor prompting printed lines
      = (printed ++ (converse editor prompting "" lines).1,
          (converse editor prompting "" lines).2) := by
  induction lines generalizing printed with
  | nil => simp [converse]
  | cons bytes rest ih =>
    rcases turned : turn (editor.reading bytes) with shown | verdict
    · simp only [converse, turned]
      rw [ih, ih ("" ++ prompting ++ linesText shown)]
      simp [String.append_assoc]
    · simp [converse, turned]

/-- A session that goes on is one with the other lines. -/
theorem converse_of_goesOn (prompting : String) {shown : List String}
    (turned : turn (editor.reading bytes) = .goesOn shown) (rest : List (List UInt8)) :
    converse editor prompting "" (bytes :: rest)
      = (prompting ++ linesText shown ++ (converse editor prompting "" rest).1,
          (converse editor prompting "" rest).2) := by
  rw [converse, turned]
  simp only [String.empty_append]
  rw [converse_append]

/-- A session that is over reads no further line. -/
theorem converse_of_ends (prompting : String) {verdict : Option Diagnostic}
    (turned : turn (editor.reading bytes) = .ends verdict) (rest : List (List UInt8)) :
    converse editor prompting "" (bytes :: rest) = (prompting, verdict) := by
  rw [converse, turned]
  simp only [String.empty_append]

end Converse

/-- A whole session. -/
def run (editor : LineEditor) (terminal : String) (input : ByteArray) : Outcome :=
  match editor.refusal with
  | some message => Outcome.ending "" (some (failure message))
  | none =>
    let (printed, failure) :=
      converse editor (editor.prompting terminal prompt) "" (LineEditor.lines input)
    Outcome.ending printed failure

end Session

end ScriptLexer
