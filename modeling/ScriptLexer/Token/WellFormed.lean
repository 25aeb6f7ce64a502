/-
ScriptLexer/Token/WellFormed.lean

Which tokens a text can hold, and which of them run into each other.

A token is well formed when its literal is one that its kind can have: the
spelling of a symbol or a keyword, a word that is not reserved, digits, or one
character outside the alphabet.  The end of a text is none of these.

A character that stands right behind a token may be read as part of it
(`Token.absorbs`); two tokens merge when that happens to the first character of
the second.
-/
import ScriptLexer.Alphabet
import ScriptLexer.Token.Basic

namespace ScriptLexer

/-! ### Words and numbers -/

/-- A word: a letter, then letters and digits. -/
def isWord (text : String) : Bool :=
  match text.toList with
  | c :: rest => isLetter c && rest.all isWordChar
  | [] => false

/-- A number: digits, at least one. -/
def isNumber (text : String) : Bool :=
  text.toList ≠ [] && text.toList.all isDigit

/-- A single character outside the alphabet. -/
def isForeign (text : String) : Bool :=
  match text.toList with
  | [c] => !inAlphabet c
  | _ => false

namespace Token

/-! ### Well-formed tokens -/

/-- Whether the literal of a token fits its kind. -/
def wellFormed (t : Token) : Bool :=
  match t.kind with
  | .illegal => isForeign t.literal
  | .eof => false
  | .ident => isWord t.literal && (Keyword.ofWord? t.literal).isNone
  | .int => isNumber t.literal
  | .symbol s => t.literal == s.spelling
  | .keyword k => t.literal == k.spelling

/-! ### Merging -/

/-- Whether a character right behind a token is read as part of it, or turns it
into another token. -/
def absorbs (t : Token) (c : Char) : Bool :=
  match t.kind with
  | .ident => isWordChar c
  | .keyword _ => isWordChar c
  | .int => isDigit c
  | .symbol .assign => c == '='
  | .symbol .bang => c == '='
  | _ => false

/-- Whether two tokens are read differently when nothing stands between them. -/
def merges (t u : Token) : Bool :=
  u.literal.toList.head?.any t.absorbs

end Token

end ScriptLexer
