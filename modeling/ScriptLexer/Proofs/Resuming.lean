/-
ScriptLexer/Proofs/Resuming.lean

What a scanner answers depends on what it has left to read, and on nothing else.

A scanner keeps its whole input, and a position in it.  Neither can be told from its
answers: two scanners of different sources, at different positions and after different
requests, answer alike from now on if the same text is left to both, but for the blanks
in front, and both streams have ended or both have not.

The reason is that a scanner answers like the list of its remaining tokens
(`ScriptLexer.Proofs.Remainder`), and that list can be had from the text that is left
(`Scanner.tracks_unread`).  So the two scanners belong to one and the same list.

A special case is a scanner and a new one, begun at the text that the first has left.
Hence a scanner can be given up anywhere and taken up again from its cursor.
-/
import ScriptLexer.Proofs.Pulls
import ScriptLexer.Proofs.Remainder

namespace ScriptLexer

/-- Blanks in front of a text make no difference to its lexemes. -/
theorem lexemes_dropWhile (text : List Char) :
    lexemes (text.dropWhile isBlank) = lexemes text := by
  have whole := List.takeWhile_append_dropWhile (p := isBlank) (l := text)
  rw [← lexemes_append_of_isBlank (List.all_takeWhile (p := isBlank) (l := text)), whole]

namespace Scanner

/-- The text that is left and the end of the stream tell what a scanner has to give. -/
theorem tracks_unread {source : String} {s : Scanner} (h : Sound source s) :
    Tracks s ⟨lexemes s.unread, s.finished⟩ where
  consistent := h.consistent
  tokens_eq := rfl
  ended_eq := rfl
  tokens_of_ended := by
    intro ended
    have nothing : s.unread = [] :=
      List.drop_eq_nil_of_le (by simp [h.ended ended])
    show lexemes s.unread = []
    rw [nothing, lexemes_of_nil rfl]

/-- Scanners with the same lexemes to give answer alike. -/
theorem runAll_eq_of_lexemes {source other : String} {s t : Scanner} (hs : Sound source s)
    (ht : Sound other t) (ended : s.finished = t.finished)
    (left : lexemes s.unread = lexemes t.unread) (commands : List (Nat × Command)) :
    Pool.runAll tokenSource [s] commands = Pool.runAll tokenSource [t] commands := by
  have first := tracks_unread hs
  have second := tracks_unread ht
  rw [← ended, ← left] at second
  calc Pool.runAll tokenSource [s] commands
      = Pool.runAll Remainder.tokenSource [⟨lexemes s.unread, s.finished⟩] commands :=
        simulates_remainder.runAll_eq (.cons first .nil) commands
    _ = Pool.runAll tokenSource [t] commands :=
        (simulates_remainder.runAll_eq (.cons second .nil) commands).symm

/-- **Answers depend on what is left.**  Two scanners, wherever they come from, answer
all further requests alike if, the blanks in front set aside, the same text is left to
both and their streams have both ended or both not.  In particular a stream that has
not ended gives the tokens of the text from the cursor on, and a scanner of that text
can take its place. -/
theorem answers_depend_on_unread {source : String} {s : Scanner} (h : Reachable source s) :
    (∀ other t, Reachable other t → s.finished = t.finished →
        (s.input.toList.drop s.position).dropWhile (blanks.contains ·)
          = (t.input.toList.drop t.position).dropWhile (blanks.contains ·) →
        ∀ commands, Pool.runAll tokenSource [s] commands = Pool.runAll tokenSource [t] commands)
      ∧ (s.finished = false →
          s.collect.1 = tokenize (String.ofList (s.input.toList.drop s.position))
            ∧ ∀ commands, Pool.runAll tokenSource [s] commands
                = Pool.runAll tokenSource [ofString (String.ofList (s.input.toList.drop s.position))]
                    commands) := by
  refine ⟨?_, ?_⟩
  · intro other t reached ended left commands
    rw [← funext isBlank_eq_contains] at left
    refine runAll_eq_of_lexemes h.sound reached.sound ended ?_ commands
    rw [← lexemes_dropWhile, ← lexemes_dropWhile t.unread]
    exact congrArg lexemes left
  · intro going
    refine ⟨?_, ?_⟩
    · have items : s.collect.1 = lexemes s.unread ++ [Token.eof] :=
        tokens_steps h.sound.consistent going
      rw [items, tokenize_eq, String.toList_ofList]
      rfl
    · have begun := sound_ofString (String.ofList s.unread)
      refine runAll_eq_of_lexemes h.sound begun going ?_
      rw [unread_ofString, String.toList_ofList]
      rfl

/-- Behind a word with a stream that goes on, and behind a number that was pulled, the
same text is left but for the blanks in front. -/
theorem answers_depend_on_unread_of_blanks :
    Reachable "le  == t!" (ofString "le  == t!").next.2
      ∧ Reachable "1\n== t!" (ofString "1\n== t!").pull.after
      ∧ (∀ commands, Pool.runAll tokenSource [(ofString "le  == t!").next.2] commands
          = Pool.runAll tokenSource [(ofString "1\n== t!").pull.after] commands)
      ∧ (ofString "le  == t!").next.2.collect.1 = tokenize "  == t!" := by
  have first : Reachable "le  == t!" (ofString "le  == t!").next.2 := .next .start
  have second : Reachable "1\n== t!" (ofString "1\n== t!").pull.after := .pull .start
  obtain ⟨alike, resumed⟩ := answers_depend_on_unread first
  refine ⟨first, second, ?_, ?_⟩
  · exact alike _ _ second (by decide +kernel) (by decide +kernel)
  · have text : String.ofList
        ((ofString "le  == t!").next.2.input.toList.drop (ofString "le  == t!").next.2.position)
          = "  == t!" := by decide +kernel
    rw [(resumed (by decide +kernel)).1, text]

end Scanner

end ScriptLexer
