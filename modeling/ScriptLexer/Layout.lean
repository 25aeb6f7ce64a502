/-
ScriptLexer/Layout.lean

How tokens are laid out in a text: each with blanks before it, and blanks after
the last.  The blanks may be left out, except between tokens that would merge.
This is the grammar of the language's tokens, said without scanning anything:
`Spells tokens text` is what a writer has to keep to, and the theory of the lexer
is that it reads back exactly what was written.

The same notion of merging tells where a text can be cut in two without a change
in its tokens (`mergesAcross`).
-/
import ScriptLexer.Scanner.Stream
import ScriptLexer.Token.WellFormed

namespace ScriptLexer

/-! ### Pieces -/

/-- A token and the blanks before it. -/
structure Piece where
  /-- The blanks. -/
  gap : List Char
  /-- The token. -/
  token : Token
  deriving DecidableEq, Repr

/-- The text of a piece. -/
def Piece.text (piece : Piece) : List Char :=
  piece.gap ++ piece.token.literal.toList

/-- Whether tokens that would merge are kept apart, in a row of pieces. -/
def keptApart : List Piece → Bool
  | first :: second :: rest =>
    (!first.token.merges second.token || !second.gap.isEmpty) && keptApart (second :: rest)
  | _ => true

/-! ### Layouts -/

/-- Pieces and the blanks after the last one. -/
structure Layout where
  /-- The pieces, in order. -/
  pieces : List Piece
  /-- The blanks after them. -/
  tail : List Char
  deriving DecidableEq, Repr

namespace Layout

/-- The tokens of a layout. -/
def tokens (layout : Layout) : List Token :=
  layout.pieces.map Piece.token

/-- The text of a layout. -/
def text (layout : Layout) : List Char :=
  layout.pieces.flatMap Piece.text ++ layout.tail

/-- Whether a layout keeps to the rules: well-formed tokens, gaps of blanks, and a
gap between tokens that would merge. -/
def valid (layout : Layout) : Bool :=
  layout.pieces.all (fun piece => piece.token.wellFormed && piece.gap.all isBlank)
    && keptApart layout.pieces && layout.tail.all isBlank

end Layout

/-- The text is a way of writing the tokens. -/
def Spells (tokens : List Token) (text : String) : Prop :=
  ∃ layout : Layout, layout.valid = true ∧ layout.tokens = tokens ∧ layout.text = text.toList

/-! ### Texts side by side -/

/-- Whether the last token of the first text goes on in the second: the first text
ends with a token, not with a blank, and the token absorbs the first character of
the second. -/
def mergesAcross (first second : String) : Bool :=
  match (tokenize first).dropLast.getLast?, first.toList.getLast?, second.toList.head? with
  | some t, some last, some c => !isBlank last && t.absorbs c
  | _, _, _ => false

end ScriptLexer
