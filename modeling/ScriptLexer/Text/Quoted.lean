/-
ScriptLexer/Text/Quoted.lean

Texts and characters in quotes.  Log messages, diagnostics and the description
of a scanner show characters of the source between delimiters: `"` for a text,
`'` for a single character.  A character is written as it is unless that would
be unclear:

* NUL, tab, line feed, carriage return and the backslash have a short form;
* the delimiter in use is written behind a backslash, the other one is plain;
* an unprintable character is written by number, as in `\u{301}`, in
  lower-case hexadecimal without leading zeros.

Each character is judged alone, whatever stands beside it.
-/
import ScriptLexer.Text.Unprintable

namespace ScriptLexer

/-! ### One character -/

/-- The number of a character between braces. -/
def numbered (c : Char) : List Char :=
  ['\\', 'u', '\x7b'] ++ Nat.toDigits 16 c.toNat ++ ['\x7d']

/-- How a character is written between two delimiters. -/
def escaped (delimiter c : Char) : List Char :=
  if c = '\x00' then ['\\', '0']
  else if c = '\t' then ['\\', 't']
  else if c = '\n' then ['\\', 'n']
  else if c = '\r' then ['\\', 'r']
  else if c = '\\' then ['\\', '\\']
  else if c = delimiter then ['\\', c]
  else if isUnprintable c then numbered c
  else [c]

/-! ### Quoted characters and texts -/

/-- The characters of a list, escaped, between two delimiters. -/
def enclosed (delimiter : Char) (text : List Char) : List Char :=
  delimiter :: text.flatMap (escaped delimiter) ++ [delimiter]

/-- A text in double quotes. -/
def quotedText (text : String) : String :=
  String.ofList (enclosed '"' text.toList)

/-- A character in single quotes. -/
def quotedChar (c : Char) : String :=
  String.ofList (enclosed '\'' [c])

end ScriptLexer
