/-
ScriptLexer/Source/Failure.lean

Why a file could not be read as text: the system refused, with a number and a
reason; the path cannot be handed to the system; or the bytes are no text.
-/

namespace ScriptLexer

/-! ### Causes -/

/-- Why no text could be read. -/
inductive ReadFailure where
  /-- The system refused, with its number for the reason. -/
  | refused (reason : String) (number : Nat)
  /-- The path holds a NUL, which ends a path for the system. -/
  | nulInPath
  /-- The bytes are not UTF-8. -/
  | notUtf8
  deriving DecidableEq, Repr

namespace ReadFailure

/-- Nothing has that name. -/
def notFound : ReadFailure := refused "No such file or directory" 2

/-- Something that is no directory was used as one. -/
def notADirectory : ReadFailure := refused "Not a directory" 20

/-- A directory was read as a file. -/
def isADirectory : ReadFailure := refused "Is a directory" 21

/-- A name or a path is longer than the system takes. -/
def nameTooLong : ReadFailure := refused "File name too long" 36

/-- The reason in words. -/
def message : ReadFailure → String
  | refused reason number => reason ++ " (os error " ++ toString number ++ ")"
  | nulInPath => "file name contained an unexpected NUL byte"
  | notUtf8 => "stream did not contain valid UTF-8"

end ReadFailure

end ScriptLexer
