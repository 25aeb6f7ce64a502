/-
ScriptLexer/Proofs/Describe.lean

The description of a scanner is its whole state.

The description is a record of all five fields, each described in a way that can be read, so
it determines them (`Scanner.describe_injective`); what characters the input holds makes no
difference, since each stands in quotes of its own.  Hence nothing about a scanner is hidden:
two with the same description are one and the same, and go on alike.

That a pull changes something can be seen as well.  A token has a character, so the cursor
gets on over it; and with the end of the text, the cursor gets on over the blanks in front of
the end.  Only at the end itself there is nothing to get over
(`Scanner.after_pull_eq_iff`).
-/
import ScriptLexer.Proofs.Progress
import ScriptLexer.Proofs.Record
import ScriptLexer.Scanner.Describe

namespace ScriptLexer

namespace Scanner

/-! ### Reading a description -/

/-- **Scanners with the same description are the same.** -/
theorem describe_injective {s t : Scanner} (same : s.describe = t.describe) : s = t := by
  have characters := legible_describeList legible_quotedChar
  have character := legible_describeOption legible_quotedChar
  -- field by field, from the front
  have fields := behindFields_of_describeRecord same
  obtain ⟨input, fields⟩ := behindFields_inj characters fields
  obtain ⟨position, fields⟩ := behindFields_inj legible_toString fields
  obtain ⟨readPosition, fields⟩ := behindFields_inj legible_toString fields
  obtain ⟨current, fields⟩ := behindFields_inj character fields
  obtain ⟨finished, -⟩ := behindFields_inj legible_describeBool fields
  cases s
  cases t
  rw [mk.injEq]
  exact ⟨Array.toList_inj.mp input, position, readPosition, current, finished⟩

/-! ### A pull that changes nothing -/

/-- A pull leaves a scanner as it is exactly when the cursor is at the end. -/
theorem after_pull_eq_iff {s : Scanner} (h : s.Consistent) :
    s.pull.after = s ↔ s.position = s.input.size := by
  constructor
  · intro stays
    have passed := (passes_pull h).position_eq
    rcases eof : s.pull.token.isEof with - | -
    · have nonempty := length_literal_pull_pos h eof
      rw [stays, List.length_append, String.length_toList] at passed
      omega
    · rw [← position_pull_of_isEof h eof, stays]
  · intro atEnd
    have ended : s.AtEnd := ⟨h, atEnd⟩
    rw [ended.pull_eq]
    rfl

/-- **The description of a scanner is its state.**  It determines every field, so scanners
with the same description answer all further requests alike, and have the same description
after them.  A pull leaves the description as it is only at the end of the input. -/
theorem description_is_state (s : Scanner) :
    (∀ t : Scanner, s.describe = t.describe ↔
        s.input = t.input ∧ s.position = t.position ∧ s.readPosition = t.readPosition
          ∧ s.current = t.current ∧ s.finished = t.finished)
      ∧ (∀ t : Scanner, s.describe = t.describe → ∀ commands,
          Pool.runAll tokenSource [s] commands = Pool.runAll tokenSource [t] commands
            ∧ (Pool.after tokenSource [s] commands).map describe
              = (Pool.after tokenSource [t] commands).map describe)
      ∧ ∀ source, Reachable source s →
          (s.pull.after.describe = s.describe ↔ s.position = s.input.size) := by
  refine ⟨?_, ?_, ?_⟩
  · intro t
    constructor
    · intro same
      rw [describe_injective same]
      exact ⟨rfl, rfl, rfl, rfl, rfl⟩
    · rintro ⟨input, position, readPosition, current, finished⟩
      rw [describe, describe, input, position, readPosition, current, finished]
  · intro t same commands
    rw [describe_injective same]
    exact ⟨rfl, rfl⟩
  · intro source reached
    rw [← after_pull_eq_iff reached.sound.consistent]
    exact ⟨describe_injective, congrArg describe⟩

/-- Behind a word that was pulled, or taken from the stream, only blanks are left.  Getting
over them is seen in the description; the pull after that is not. -/
theorem description_is_state_of_blanks :
    Reachable "a \n" (ofString "a \n").pull.after
      ∧ (ofString "a \n").pull.after.describe = (ofString "a \n").next.2.describe
      ∧ (∀ commands, Pool.runAll tokenSource [(ofString "a \n").pull.after] commands
          = Pool.runAll tokenSource [(ofString "a \n").next.2] commands)
      ∧ (ofString "a \n").pull.after.pull.after.describe
          ≠ (ofString "a \n").pull.after.describe
      ∧ (ofString "a \n").pull.after.pull.after.pull.after.describe
          = (ofString "a \n").pull.after.pull.after.describe := by
  have word : Reachable "a \n" (ofString "a \n").pull.after := .pull .start
  have alike : (ofString "a \n").pull.after.describe = (ofString "a \n").next.2.describe := by
    decide +kernel
  obtain ⟨-, answers, changes⟩ := description_is_state (ofString "a \n").pull.after
  refine ⟨word, alike, fun commands => (answers _ alike commands).1, ?_, ?_⟩
  · rw [Ne, changes _ word]
    decide +kernel
  · have atEnd := (description_is_state (ofString "a \n").pull.after.pull.after).2.2 _ word.pull
    rw [atEnd]
    decide +kernel

end Scanner

end ScriptLexer
