/-
ScriptLexer/Text/CodeSet.lean

Sets of code points, written as closed ranges.  The properties that decide how a
text is quoted, erased and skipped (which characters have no picture, which join
the one before them, which are blank) are tables of a standard; a table is a
value of this type, and a membership test is all that is asked of it.
-/

namespace ScriptLexer

/-! ### Ranges -/

/-- A set of code points: the union of closed ranges `(first, last)`. -/
abbrev CodeSet := List (Nat × Nat)

namespace CodeSet

/-- Whether a character's code point lies in one of the ranges. -/
def contains (set : CodeSet) (c : Char) : Bool :=
  set.any fun range => range.1 ≤ c.toNat && c.toNat ≤ range.2

end CodeSet

end ScriptLexer
