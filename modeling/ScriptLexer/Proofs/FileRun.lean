/-
ScriptLexer/Proofs/FileRun.lean

A run on one file, from its bytes to the exit status.

There are two ways for it to go, and the bytes alone decide between them.  If they
encode no text, or there are none, the run is refused and writes nothing but a
report (`Refused`).  If they encode a text, its tokens are listed, all of them,
before anything is made of the illegal ones; then the run fails by the first
character outside the alphabet, or succeeds if there is none (`Listed`).  The
failure is found among the tokens, but it is told here of the characters of the
text, which is what `Diagnostic.firstIllegal?_tokenize` is for.
-/
import ScriptLexer.CommandLine
import ScriptLexer.Proofs.Reports

namespace ScriptLexer

open CommandLine

/-! ### The two ways to go -/

theorem runFile_of_text {read : FileReader} {path text : String}
    (stored : read path = .ok text.toUTF8) (elapsed : String) :
    runFile read path elapsed = listFile path elapsed (tokenize text) := by
  rw [runFile, lexFile, readSource_eq_ok_iff.mpr stored]
  rfl

end ScriptLexer
