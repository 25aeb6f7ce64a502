/-
ScriptLexer/Text/Blank.lean

White space in the sense of the Unicode property `White_Space`: the notion by
which a line counts as blank.  It is wider than the four characters that the
scanner skips (`ScriptLexer.Alphabet`), and the two are kept apart.
-/
import ScriptLexer.Text.CodeSet

namespace ScriptLexer

/-! ### The property -/

/-- The code points with the property `White_Space`. -/
def whiteSpaces : CodeSet :=
  [(0x9, 0xd), (0x20, 0x20), (0x85, 0x85), (0xa0, 0xa0), (0x1680, 0x1680), (0x2000, 0x200a),
   (0x2028, 0x2029), (0x202f, 0x202f), (0x205f, 0x205f), (0x3000, 0x3000)]

/-- Whether a character is white space. -/
def isWhiteSpace (c : Char) : Bool :=
  whiteSpaces.contains c

/-- Whether a text is empty once white space is trimmed off, that is, whether it
holds white space only. -/
def isBlankText (text : String) : Bool :=
  text.toList.all isWhiteSpace

theorem isBlankText_iff {text : String} :
    isBlankText text = true ↔ ∀ c ∈ text.toList, isWhiteSpace c = true := by
  simp [isBlankText]

end ScriptLexer
