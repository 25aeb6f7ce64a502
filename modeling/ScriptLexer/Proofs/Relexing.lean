/-
ScriptLexer/Proofs/Relexing.lean

Lexing again from where a token begins.

When more is added behind a text, its last token may go on in it and become a longer
one, or one of another kind.  So it has to be read again, but nothing in front of it
has: a token that is followed by another one is followed by a character already, and
ends because of that character (`Scanner.endsBefore_pull`), whatever stands further
behind.  A text with more behind it therefore has the tokens that it had before the
last one, and then those of its end, from where the last token begins, with the same
behind it.

The place of a token is where the scanner finds it (`startOf?`).  The law holds of any
token and not only of the last one, and is shown so: along the steps of the stream,
each step over a token that is kept adds that token on both sides
(`Scanner.lexemes_unread_append`).
-/
import ScriptLexer.Proofs.Pulls

namespace ScriptLexer

/-! ### Places -/

/-- Where the token with the given number begins in a text, in characters. -/
def startOf? (source : String) (n : Nat) : Option Nat :=
  (Scanner.ofString source).steps[n]?.map Pull.start

/-! ### The steps of a stream -/

namespace Scanner

/-- A stream that still gives a token has text left. -/
theorem unread_ne_nil {s : Scanner} (h : s.Consistent) (going : s.finished = false) {p : Pull}
    (mem : p ∈ s.steps) (solid : p.token.isEof = false) : s.unread ≠ [] := by
  intro empty
  have tokens := tokens_steps h going
  rw [empty, lexemes_of_nil rfl, List.nil_append] at tokens
  have only : p.token ∈ [Token.eof] := tokens ▸ List.mem_map_of_mem mem
  rw [List.mem_singleton.mp only] at solid
  cases solid

/-- From behind its blanks, the text that is left is the token and what stands behind it. -/
theorem drop_start_pull {s : Scanner} (h : s.Consistent) :
    s.input.toList.drop s.pull.start = s.unread.dropWhile isBlank
      ∧ s.input.toList.drop s.pull.start
          = s.pull.token.literal.toList ++ s.pull.after.unread := by
  have here : s.input.toList.drop s.pull.start = s.skipBlanks.unread := by
    rw [start_pull h, unread, (passes_skipBlanks h).input_eq]
  exact ⟨here.trans (unread_skipBlanks h), here.trans (passes_literal h).unread_eq⟩

/-- What is left to a stream, with more behind it, has the tokens before a certain one,
and then those from where that one begins. -/
theorem lexemes_unread_append {s : Scanner} (h : s.Consistent) (going : s.finished = false)
    {before later : List Pull} {p : Pull} (steps : s.steps = before ++ p :: later)
    (solid : p.token.isEof = false) :
    p.token.literal.toList <+: s.input.toList.drop p.start
      ∧ ∀ more, lexemes (s.unread ++ more)
          = before.map Pull.token ++ lexemes (s.input.toList.drop p.start ++ more) := by
  induction before generalizing s with
  | nil =>
    -- the token is the next one: only blanks stand in front of it
    rcases left : s.unread.dropWhile isBlank with - | ⟨c, rest⟩
    · rw [steps_of_nil h going left] at steps
      obtain ⟨rfl, -⟩ := List.cons.inj steps
      cases solid
    · rw [steps_of_cons h going left] at steps
      obtain ⟨rfl, -⟩ := List.cons.inj steps
      obtain ⟨behind, token⟩ := drop_start_pull h
      refine ⟨⟨_, token.symm⟩, ?_⟩
      intro more
      have whole := List.takeWhile_append_dropWhile (p := isBlank) (l := s.unread)
      rw [behind, ← whole, List.append_assoc, lexemes_append_of_isBlank List.all_takeWhile, whole]
      rfl
  | cons first before ih =>
    rcases left : s.unread.dropWhile isBlank with - | ⟨c, rest⟩
    · rw [steps_of_nil h going left] at steps
      have one := congrArg List.length steps
      simp at one
    · rw [steps_of_cons h going left] at steps
      obtain ⟨rfl, others⟩ := List.cons.inj steps
      have after := consistent_pull h
      have still := (finished_pull h).trans going
      obtain ⟨token, relexed⟩ := ih after still others
      rw [input_pull h] at token relexed
      refine ⟨token, ?_⟩
      intro more
      -- the first token ended before what was left behind it, and there was something left
      have nonempty : s.pull.after.unread ≠ [] :=
        unread_ne_nil after still (others ▸ List.mem_append_cons_self) solid
      have ends := (Token.endsBefore_append nonempty more).mpr (endsBefore_pull h left)
      rw [(passes_pull h).unread_eq, List.append_assoc, List.append_assoc,
        lexemes_append_of_isBlank List.all_takeWhile,
        lexemes_append_of_wellFormed (wellFormed_pull h left) ends, relexed more]
      rfl

end Scanner

/-! ### A whole text -/

/-- **Lexing again from a token.**  Whatever is added behind a text, its tokens before a
certain one stay, and the others are those of the text from where that one begins, with
the same behind it.  If the token is the last one before the end, it is the only one
that can change. -/
theorem tokenize_append_from_token {source : String} {before later : List Token} {t : Token}
    (tokens : tokenize source = before ++ t :: later) (solid : t.isEof = false) :
    ∃ i, startOf? source before.length = some i
      ∧ t.literal.toList <+: source.toList.drop i
      ∧ ∀ more, tokenize (source ++ more)
          = before ++ tokenize (String.ofList (source.toList.drop i) ++ more) := by
  have begun := Scanner.consistent_ofString source
  obtain ⟨front, back, steps, rfl, rest⟩ := List.map_eq_append_iff.mp tokens
  obtain ⟨p, behind, rfl, rfl, -⟩ := List.map_eq_cons_iff.mp rest
  obtain ⟨token, relexed⟩ := Scanner.lexemes_unread_append begun rfl steps solid
  refine ⟨p.start, ?_, token, ?_⟩
  · rw [startOf?, steps, List.length_map, List.getElem?_append_right (Nat.le_refl _)]
    simp
  · intro more
    have whole := relexed more.toList
    rw [Scanner.unread_ofString] at whole
    rw [tokenize_eq, tokenize_eq, String.toList_append, String.toList_append, whole,
      String.toList_ofList, List.append_assoc]
    rfl

/-- A word becomes a keyword, and the word before it stays. -/
theorem tokenize_append_from_token_of_keyword :
    tokenize "x le" = [⟨.ident, "x"⟩] ++ ⟨.ident, "le"⟩ :: [Token.eof]
      ∧ Token.isEof ⟨.ident, "le"⟩ = false
      ∧ startOf? "x le" 1 = some 2
      ∧ tokenize ("x le" ++ "t") = [⟨.ident, "x"⟩] ++ tokenize ("le" ++ "t") := by
  have tokens : tokenize "x le" = [⟨.ident, "x"⟩] ++ ⟨.ident, "le"⟩ :: [Token.eof] := by
    decide +kernel
  have place : startOf? "x le" 1 = some 2 := by decide +kernel
  obtain ⟨i, start, -, relexed⟩ := tokenize_append_from_token tokens rfl
  obtain rfl : 2 = i := Option.some.inj (place.symm.trans start)
  exact ⟨tokens, rfl, place, relexed "t"⟩

end ScriptLexer
