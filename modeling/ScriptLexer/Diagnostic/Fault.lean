/-
ScriptLexer/Diagnostic/Fault.lean

What can go wrong, by cause.  A fault holds the particulars of its cause and
nothing else; its texts are made here from those: a message that quotes whatever
came from outside, so that it can be taken apart again, and a tip for the user,
which shows the same things as they are.
-/
import ScriptLexer.Text.Quoted
import ScriptLexer.Text.Record

namespace ScriptLexer

/-! ### The causes -/

/-- What went wrong. -/
inductive Fault where
  /-- A source holds a character outside the alphabet. -/
  | illegalCharacter (character : String)
  /-- A file could not be read; `message` is the reason. -/
  | unreadableSource (path message : String)
  /-- A line could not be read; `message` is the reason. -/
  | readlineFailure (message : String)
  /-- The command line holds more arguments than there is use for. -/
  | incorrectArguments (received : Nat)
  deriving DecidableEq, Repr

namespace Fault

/-! ### Texts -/

/-- The name of a fault. -/
def name : Fault → String
  | illegalCharacter _ => "IllegalCharacter"
  | unreadableSource _ _ => "UnreadableSource"
  | readlineFailure _ => "ReadlineFailure"
  | incorrectArguments _ => "IncorrectArguments"

/-- One line that says what went wrong. -/
def message : Fault → String
  | illegalCharacter character => "illegal character: " ++ quotedText character
  | unreadableSource path message => "unable to read " ++ quotedText path ++ ": " ++ message
  | readlineFailure message => "readline failure: " ++ message
  | incorrectArguments received =>
    "incorrect arguments: expected at most 1, received " ++ toString received

/-- What the user may want to know, where there is something to tell. -/
def tip? : Fault → Option String
  | illegalCharacter character => some ("Unrecognised character `" ++ character ++ "`")
  | unreadableSource path message => some ("Could not read `" ++ path ++ "`: " ++ message)
  | readlineFailure _ => none
  | incorrectArguments received =>
    some ("Expected at most 1 argument, received " ++ toString received)

/-- The description of a fault with its particulars. -/
def describe : Fault → String
  | illegalCharacter character =>
    describeRecord "IllegalCharacter" [("character", quotedText character)]
  | unreadableSource path message =>
    describeRecord "UnreadableSource" [("path", quotedText path), ("message", quotedText message)]
  | readlineFailure message => describeRecord "ReadlineFailure" [("message", quotedText message)]
  | incorrectArguments received =>
    describeRecord "IncorrectArguments" [("received", toString received)]

end Fault

end ScriptLexer
