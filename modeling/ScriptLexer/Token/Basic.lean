/-
ScriptLexer/Token/Basic.lean

Tokens: a kind together with the text it was read from.  The end of a text is a
token too, with an empty text.  Nothing ties the literal to the kind here; that
the scanner only makes tokens whose literal fits their kind is a theorem about
the scanner, not a property of the type.
-/
import ScriptLexer.Text.Quoted
import ScriptLexer.Text.Record
import ScriptLexer.Token.Kind

namespace ScriptLexer

/-! ### The type -/

/-- A kind and the source text it stands for. -/
structure Token where
  /-- What the token is. -/
  kind : Kind
  /-- The text of the source that it was read from. -/
  literal : String
  deriving DecidableEq, Repr

namespace Token

/-- The token that marks the end of a text. -/
def eof : Token := ⟨.eof, ""⟩

/-- Whether a token is of the kind that marks the end. -/
def isEof (t : Token) : Bool :=
  t.kind == .eof

/-- Whether a token is an illegal character. -/
def isIllegal (t : Token) : Bool :=
  t.kind == .illegal

/-! ### Shown forms -/

/-- How a token is printed: kind and literal, in braces, the literal as it is. -/
def display (t : Token) : String :=
  "\x7bType:" ++ t.kind.name ++ " Literal:" ++ t.literal ++ "\x7d"

/-- The description of a token, its literal in quotes. -/
def describe (t : Token) : String :=
  describeRecord "Token" [("kind", t.kind.label), ("literal", quotedText t.literal)]

@[simp] theorem isEof_iff {t : Token} : t.isEof = true ↔ t.kind = .eof := by
  simp [isEof]

end Token

end ScriptLexer
