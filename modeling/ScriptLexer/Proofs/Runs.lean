/-
ScriptLexer/Proofs/Runs.lean

The loops of the scanner go over longest runs.

A loop looks at the character at hand, and what it hands out is cut from the input by two
indices.  That both come to the same is what consistency is for: from a consistent scanner,
a loop passes what `List.takeWhile` takes of the text that is left, and this is the longest
beginning of that text whose characters all pass the test (`longestRun_iff`).  A scanner
that has moved is its input and flag with the cursor set to another index
(`Scanner.Passes.eq_standAt`), so one equation says what a loop does to all fields.

Loops are run in the middle of a request, on scanners that no request hands back: behind
the blanks, for instance.  So the statement is about these as well (`Scanner.Underway`).
They come of a scanner that was handed back by moving its cursor over characters, which is
also all that a loop does; so a loop may follow a loop.
-/
import ScriptLexer.Proofs.Bounds
import ScriptLexer.Proofs.Pulls

namespace ScriptLexer

/-! ### Longest runs -/

/-- The longest beginning of a text whose characters all pass the test. -/
structure LongestRun (test : Char → Bool) (text run : List Char) : Prop where
  begins : run <+: text
  passes : ∀ c ∈ run, test c = true
  longest : ∀ other, other <+: text → (∀ c ∈ other, test c = true) → other.length ≤ run.length

section LongestRun

variable {test : Char → Bool} {text run : List Char}

theorem longestRun_takeWhile (test : Char → Bool) (text : List Char) :
    LongestRun test text (text.takeWhile test) where
  begins := List.takeWhile_prefix test
  passes := List.all_eq_true.mp List.all_takeWhile
  longest := by
    rintro other ⟨rest, rfl⟩ passes
    rw [List.takeWhile_append_of_pos passes, List.length_append]
    exact Nat.le_add_right _ _

/-- There is no other longest run. -/
theorem longestRun_iff : LongestRun test text run ↔ run = text.takeWhile test := by
  constructor
  · intro h
    have taken := longestRun_takeWhile test text
    -- of two beginnings of a text, the shorter one begins the longer one
    have fits := taken.longest run h.begins h.passes
    have within := List.prefix_of_prefix_length_le h.begins taken.begins fits
    exact within.eq_of_length (Nat.le_antisymm fits (h.longest _ taken.begins taken.passes))
  · rintro rfl
    exact longestRun_takeWhile test text

end LongestRun

namespace Scanner

/-! ### Scanners on the way -/

/-- The scanners that a source leads to, with those that are met while a request is
answered: there the cursor has moved on over some characters. -/
inductive Underway (source : String) : Scanner → Prop
  | reached {s : Scanner} : Reachable source s → Underway source s
  | moved {s : Scanner} {c : Char} :
      Underway source s → s.current = some c → Underway source s.advance

theorem Underway.consistent {source : String} {s : Scanner} (h : Underway source s) :
    s.Consistent := by
  induction h with
  | reached reachable => exact reachable.sound.consistent
  | moved _ under ih => exact (Guarded.passes_of_current ih under).consistent

/-- A loop leads from one to another. -/
theorem Underway.advanceWhile {source : String} (test : Char → Bool) {s : Scanner}
    (h : Underway source s) : Underway source (s.advanceWhile test) := by
  fun_induction Scanner.advanceWhile test s with
  | case1 s c under pass ih => exact ih (h.moved under)
  | case2 s c under fail => exact h
  | case3 s under => exact h

/-! ### Where a loop stops -/

/-- A scanner with its cursor set to an index. -/
def standAt (s : Scanner) (index : Nat) : Scanner :=
  { s with position := index, readPosition := index + 1, current := s.input[index]? }

/-- Moving the cursor does nothing else. -/
theorem Passes.eq_standAt {s t : Scanner} {passed : List Char} (h : s.Passes passed t) :
    t = s.standAt (s.position + passed.length) := by
  have readPosition := h.consistent.readPosition_eq
  have current := h.consistent.current_eq
  rw [h.position_eq] at readPosition current
  rw [h.input_eq] at current
  cases t
  rw [standAt, mk.injEq]
  exact ⟨h.input_eq, h.position_eq, readPosition, current, h.finished_eq⟩

/-- Where a loop has stopped, it has nothing more to do. -/
theorem advanceWhile_advanceWhile (test : Char → Bool) (s : Scanner) :
    (s.advanceWhile test).advanceWhile test = s.advanceWhile test := by
  fun_induction Scanner.advanceWhile test s with
  | case1 s c under pass ih => exact ih
  | case2 s c under fail =>
    apply advanceWhile_of_stops
    rw [under]
    exact Bool.eq_false_iff.mpr fail
  | case3 s under =>
    apply advanceWhile_of_stops
    rw [under]
    rfl

/-- From `s`, a loop has gone over the one longest run of characters that pass, and the
scanner `t` is `s` with the cursor behind that run. -/
structure GoesOver (s : Scanner) (test : Char → Bool) (run : List Char) (t : Scanner) :
    Prop where
  longest_iff : ∀ other, LongestRun test (s.input.toList.drop s.position) other ↔ other = run
  within : s.position + run.length ≤ s.input.size
  eq_standAt : t = s.standAt (s.position + run.length)

theorem goesOver_advanceWhile (test : Char → Bool) {s : Scanner} (h : s.Consistent) :
    s.GoesOver test (s.unread.takeWhile test) (s.advanceWhile test) where
  longest_iff := fun _ => longestRun_iff
  within := by
    have passed := passes_advanceWhile test h
    rw [← passed.position_eq, ← passed.input_eq]
    exact passed.consistent.position_le
  eq_standAt := (passes_advanceWhile test h).eq_standAt

/-- **The loops go over longest runs.**  Whatever the test, from every scanner that is met on
a source, a run is the longest one that stands under the cursor; its text is handed out, the
cursor is set behind it, and nothing else changes.  The same is true of skipping blanks,
which leaves none to skip.  Both stay within the bounds of indices and slices. -/
theorem loops_go_over_longest_runs {source : String} {s : Scanner} (h : Underway source s) :
    (∀ test, ∃ run, s.GoesOver test run (s.takeRun test).2
        ∧ (s.takeRun test).1 = String.ofList run
        ∧ Underway source (s.takeRun test).2
        ∧ ∀ limit, s.input.size < limit →
            Guarded.takeRun? limit test s = some (s.takeRun test))
      ∧ (∃ gap, s.GoesOver (blanks.contains ·) gap s.skipBlanks
        ∧ Underway source s.skipBlanks
        ∧ ∀ limit, s.input.size < limit →
            Guarded.advanceWhile? limit isBlank s = some s.skipBlanks)
      ∧ s.skipBlanks.skipBlanks = s.skipBlanks := by
  have consistent := h.consistent
  refine ⟨?_, ?_, advanceWhile_advanceWhile isBlank s⟩
  · intro test
    exact ⟨_, goesOver_advanceWhile test consistent, takeRun_fst test consistent,
      h.advanceWhile test, fun limit fits => Guarded.takeRun?_eq test consistent fits⟩
  · have skipped := goesOver_advanceWhile isBlank consistent
    refine ⟨s.unread.takeWhile isBlank, ?_, h.advanceWhile isBlank,
      fun limit fits => Guarded.advanceWhile?_eq isBlank consistent fits⟩
    rw [← funext isBlank_eq_contains]
    exact skipped

/-- Behind a word, two blanks are skipped, and then a run of digits is taken up to the end:
a scanner that no request hands back. -/
theorem loops_go_over_longest_runs_of_digits :
    Underway "a \t42" (ofString "a \t42").pull.after.skipBlanks
      ∧ (∃ gap, (ofString "a \t42").pull.after.GoesOver (blanks.contains ·) gap
          (ofString "a \t42").pull.after.skipBlanks)
      ∧ (∃ run, (ofString "a \t42").pull.after.skipBlanks.GoesOver isDigit run
            ((ofString "a \t42").pull.after.skipBlanks.takeRun isDigit).2
          ∧ String.ofList run = "42")
      ∧ ((ofString "a \t42").pull.after.skipBlanks.takeRun isDigit).2.current = none := by
  have word : Underway "a \t42" (ofString "a \t42").pull.after := .reached (.pull .start)
  obtain ⟨-, ⟨gap, skipped, behind, -⟩, -⟩ := loops_go_over_longest_runs word
  obtain ⟨runs, -⟩ := loops_go_over_longest_runs behind
  obtain ⟨run, taken, text, -⟩ := runs isDigit
  refine ⟨behind, ⟨gap, skipped⟩, ⟨run, taken, ?_⟩, ?_⟩
  · rw [← text]
    decide +kernel
  · decide +kernel

end Scanner

end ScriptLexer
