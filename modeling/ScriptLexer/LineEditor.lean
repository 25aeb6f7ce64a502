/-
ScriptLexer/LineEditor.lean

Line editors: who reads the lines of a session.

A session does not read its input itself.  It asks an editor, which writes what it
likes before each read, takes the bytes of a line and answers with a text, or with
the reason why there is none.  Editors differ by what they let the user do, so
which one it is is left open here: a `LineEditor` says what its answers are, and
nothing of how it comes by them.

The editor of an input that is no terminal is `LineEditor.piped`.  It decodes a
line with its line feed, then takes off the line feed and one carriage return
before it, then carries out the backspaces.  It knows no keys, so it is never
interrupted.  It writes the prompt only for a terminal that cannot edit a line.
-/
import ScriptLexer.Source.Basic
import ScriptLexer.Text.Backspace

namespace ScriptLexer

/-! ### Editors -/

/-- What an editor answers when it is asked for a line. -/
inductive Reading where
  /-- A line, without its end. -/
  | line (text : String)
  /-- The line was given up, others may follow. -/
  | interrupted
  /-- There are no more lines. -/
  | closed
  /-- The line cannot be had. -/
  | failed (message : String)
  deriving DecidableEq, Repr

/-- An editor. -/
structure LineEditor where
  /-- Why it does not start, if it does not. -/
  refusal : Option String
  /-- What it writes before each read, for a terminal and a prompt. -/
  prompting : String → String → String
  /-- Its answer to the bytes of a line, the line feed at its end among them. -/
  reading : List UInt8 → Reading

namespace LineEditor

/-! ### Lines -/

/-- The byte that ends a line. -/
def lineFeed : UInt8 := 10

/-- Cuts bytes into lines, each with its line feed.  `line` is the line being read,
backwards, and `done` are the lines before it. -/
def cutLines (done : Array (List UInt8)) (line : List UInt8) : List UInt8 → List (List UInt8)
  | [] => (if line.isEmpty then done else done.push line.reverse).toList
  | byte :: rest =>
    if byte = lineFeed then cutLines (done.push (byte :: line).reverse) [] rest
    else cutLines done (byte :: line) rest

/-- The lines of an input.  An input that ends with a line feed has no further,
empty line. -/
def lines (input : ByteArray) : List (List UInt8) :=
  cutLines #[] [] input.data.toList

/-- Takes off the line feed at the end and one carriage return before it. -/
def dropLineEnd (line : String) : String :=
  match line.toList.reverse with
  | '\n' :: '\r' :: rest => String.ofList rest.reverse
  | '\n' :: rest => String.ofList rest.reverse
  | _ => line

/-! ### The editor of an input that is no terminal -/

/-- The terminals that cannot edit a line. -/
def plainTerminals : List String := ["dumb", "cons25", "emacs"]

/-- What is written before each read.  Case makes no difference to the name of a
terminal. -/
def promptOn (terminal prompt : String) : String :=
  if plainTerminals.contains terminal.toLower then prompt else ""

/-- The line that is handed on, from the bytes that were read. -/
def readLine (bytes : List UInt8) : Reading :=
  match decodeText ⟨bytes.toArray⟩ with
  | .ok line => .line (eraseBackspaces (dropLineEnd line))
  | .error failure => .failed failure.message

/-- The editor of an input that is no terminal. -/
def piped : LineEditor where
  refusal := none
  prompting := promptOn
  reading := readLine

end LineEditor

end ScriptLexer
