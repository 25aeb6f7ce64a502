/-
ScriptLexer/Alphabet.lean

The characters that a source may hold: blanks between tokens, letters and digits
of words and numbers, and the characters of the symbols.  All of them are ASCII.
Every other character is illegal, and the classes here are disjoint, so what a
token is can be read off its first character, but for `=` and `!`, which a
following `=` turns into a different symbol.
-/
import ScriptLexer.Token.Kind

namespace ScriptLexer

/-! ### Classes of characters -/

/-- The characters that separate tokens: space, tab, line feed, carriage return. -/
def isBlank (c : Char) : Bool :=
  c == ' ' || c == '\t' || c == '\n' || c == '\r'

/-- The characters that a word begins with: ASCII letters and the underscore. -/
def isLetter (c : Char) : Bool :=
  ('a' ≤ c && c ≤ 'z') || ('A' ≤ c && c ≤ 'Z') || c == '_'

/-- The ASCII digits. -/
def isDigit (c : Char) : Bool :=
  '0' ≤ c && c ≤ '9'

/-- The characters that continue a word. -/
def isWordChar (c : Char) : Bool :=
  isLetter c || isDigit c

/-! ### Symbols by their characters -/

namespace Symbol

/-- The symbol that a character is when nothing joins it. -/
def ofChar? : Char → Option Symbol
  | '=' => some assign
  | '+' => some plus
  | '-' => some minus
  | '!' => some bang
  | '*' => some asterisk
  | '/' => some slash
  | '<' => some less
  | '>' => some greater
  | ',' => some comma
  | ';' => some semicolon
  | '(' => some leftParen
  | ')' => some rightParen
  | '\x7b' => some leftBrace
  | '\x7d' => some rightBrace
  | _ => none

/-- The symbol that a character makes together with an `=` after it. -/
def withEquals? : Char → Option Symbol
  | '=' => some equal
  | '!' => some notEqual
  | _ => none

/-- The symbol of two characters that begins with `c`, when `following` is the
character after it. -/
def ofPair? (c : Char) (following : Option Char) : Option Symbol :=
  if following = some '=' then withEquals? c else none

end Symbol

/-- The characters of the symbols. -/
def isSymbolChar (c : Char) : Bool :=
  (Symbol.ofChar? c).isSome

/-! ### The alphabet -/

/-- The characters of the language.  A source is free of illegal characters
exactly when it is made of these. -/
def inAlphabet (c : Char) : Bool :=
  isBlank c || isLetter c || isDigit c || isSymbolChar c

end ScriptLexer
