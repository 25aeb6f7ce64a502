/-
ScriptLexer/Source/Basic.lean

Reading a source: the bytes of a file, taken as UTF-8.  The text is what the bytes
encode and nothing is changed on the way, neither line ends nor a byte order mark.
How bytes are come by is left open: a `FileReader` answers for a path.
-/
import ScriptLexer.Diagnostic.Basic
import ScriptLexer.Source.FileTree

namespace ScriptLexer

/-! ### Text from bytes -/

/-- The text that bytes encode. -/
def decodeText (bytes : ByteArray) : Except ReadFailure String :=
  match String.fromUTF8? bytes with
  | some text => .ok text
  | none => .error .notUtf8

/-- Bytes encode exactly the text that is written as them. -/
theorem decodeText_eq_ok_iff {bytes : ByteArray} {text : String} :
    decodeText bytes = .ok text ↔ bytes = text.toUTF8 := by
  by_cases valid : bytes.IsValidUTF8
  · have decoded : decodeText bytes = .ok (String.fromUTF8 bytes valid) := by
      simp [decodeText, String.fromUTF8?, valid]
    rw [decoded]
    constructor
    · intro h
      obtain rfl := Except.ok.inj h
      rfl
    · rintro rfl
      rfl
  · have refused : decodeText bytes = .error .notUtf8 := by
      simp [decodeText, String.fromUTF8?, valid]
    rw [refused]
    constructor
    · exact fun h => nomatch h
    · rintro rfl
      exact absurd text.isValidUTF8 valid

/-! ### Sources -/

/-- The bytes of a file by its path, or why there are none. -/
abbrev FileReader := String → Except ReadFailure ByteArray

/-- The text of a file, or the diagnostic that says why there is none. -/
def readSource (read : FileReader) (path : String) : Except Diagnostic String :=
  match read path >>= decodeText with
  | .ok text => .ok text
  | .error failure => .error (.unreadable path failure.message)

/-- A source is read exactly when its bytes are there and encode the text. -/
theorem readSource_eq_ok_iff {read : FileReader} {path text : String} :
    readSource read path = .ok text ↔ read path = .ok text.toUTF8 := by
  rcases found : read path with failure | bytes
  · simp [readSource, found, bind, Except.bind]
  · rcases decoded : decodeText bytes with failure | content
    · have : bytes ≠ text.toUTF8 := fun same => by
        rw [decodeText_eq_ok_iff.mpr same] at decoded
        exact nomatch decoded
      simpa [readSource, found, decoded, bind, Except.bind] using this
    · simp only [readSource, found, bind, Except.bind, decoded, Except.ok.injEq]
      rw [← decodeText_eq_ok_iff, decoded, Except.ok.injEq]

end ScriptLexer
