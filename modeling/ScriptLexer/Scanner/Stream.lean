/-
ScriptLexer/Scanner/Stream.lean

The tokens of a scanner as a stream.  A pull at the end of the text gives the end
token every time; the stream gives it once and then nothing.  The flag `finished`
is what it remembers, and only the stream sets it: an end token that was pulled
leaves the stream one more to give.

`steps` is the rest of the stream, pull by pull.  What is collected, what a whole
text amounts to (`tokenize`) and what is logged on the way (`eventsOf`) are all
read off it.
-/
import ScriptLexer.Scanner.Pull

namespace ScriptLexer

namespace Scanner

/-! ### One item -/

/-- The scanner of a stream that has ended. -/
def finish (s : Scanner) : Scanner :=
  { s with finished := true }

/-- A pull as the stream hands it out: the end token ends the stream. -/
def handOut (pulled : Pull) : Pull :=
  if pulled.token.isEof then { pulled with after := pulled.after.finish } else pulled

/-- The next step of the stream, if it has not ended. -/
def step? (s : Scanner) : Option Pull :=
  if s.finished then none else some (handOut s.pull)

/-- The next item of the stream, and the scanner after it. -/
def next (s : Scanner) : Option Token × Scanner :=
  match s.step? with
  | some pulled => (some pulled.token, pulled.after)
  | none => (none, s)

/-- The item that follows the next `n` ones.  The first item that is missing ends
the search. -/
def nth : Nat → Scanner → Option Token × Scanner
  | 0, s => s.next
  | n + 1, s =>
    match s.next with
    | (some _, after) => nth n after
    | (none, after) => (none, after)

/-! ### The rest of the stream -/

/-- A bound on the number of steps: each character takes part in at most one, and
the end is one more. -/
def budget (s : Scanner) : Nat :=
  if s.finished then 0 else s.remaining + 1

/-- A step is a pull.  If it gives the end, the stream has ended, and nothing else is
changed. -/
theorem step_cases {s : Scanner} {pulled : Pull} (h : s.step? = some pulled) :
    s.finished = false
      ∧ (s.pull.token.isEof = false ∧ pulled = s.pull
        ∨ s.pull.token.isEof = true
          ∧ pulled = { s.pull with after := s.pull.after.finish }) := by
  rcases finished : s.finished with - | -
  · obtain rfl : handOut s.pull = pulled := by simpa [step?, finished] using h
    refine ⟨rfl, ?_⟩
    rcases eof : s.pull.token.isEof with - | -
    · exact .inl ⟨rfl, by simp [handOut, eof]⟩
    · exact .inr ⟨rfl, by simp [handOut, eof]⟩
  · simp [step?, finished] at h

theorem budget_step_lt {s : Scanner} {pulled : Pull} (h : s.step? = some pulled) :
    pulled.after.budget < s.budget := by
  obtain ⟨going, ⟨eof, rfl⟩ | ⟨eof, rfl⟩⟩ := step_cases h
  · have shorter := remaining_pull_lt eof
    simp only [budget, going, Bool.false_eq_true, if_false]
    split <;> omega
  · simp [budget, finish, going]

/-- Adds the steps that are left to those already made. -/
def stepsAfter (made : Array Pull) (s : Scanner) : Array Pull :=
  match _found : s.step? with
  | some pulled => stepsAfter (made.push pulled) pulled.after
  | none => made
termination_by s.budget
decreasing_by exact budget_step_lt ‹_›

/-- The steps of the stream that are left. -/
def steps (s : Scanner) : List Pull :=
  (stepsAfter #[] s).toList

/-- Takes the rest of the stream: its tokens, and the scanner at its end. -/
def collect (s : Scanner) : List Token × Scanner :=
  (s.steps.map Pull.token, (s.steps.getLast?.map Pull.after).getD s)

/-! ### The steps, one at a time -/

theorem stepsAfter_of_some {s : Scanner} {pulled : Pull} (h : s.step? = some pulled)
    (made : Array Pull) : stepsAfter made s = stepsAfter (made.push pulled) pulled.after := by
  rw [stepsAfter.eq_def]
  split
  next other found => rw [Option.some.inj (h.symm.trans found)]
  next ended => exact absurd (h.symm.trans ended) (Option.some_ne_none pulled)

theorem stepsAfter_of_none {s : Scanner} (h : s.step? = none) (made : Array Pull) :
    stepsAfter made s = made := by
  rw [stepsAfter.eq_def]
  split
  next other found => exact absurd (found.symm.trans h) (Option.some_ne_none other)
  next => rfl

/-- Steps already made stand before those that are left. -/
theorem stepsAfter_append (front made : Array Pull) (s : Scanner) :
    stepsAfter (front ++ made) s = front ++ stepsAfter made s := by
  fun_induction stepsAfter made s with
  | case1 made s pulled found ih =>
    rw [stepsAfter_of_some found, ← ih, Array.append_push]
  | case2 made s ended => exact stepsAfter_of_none ended _

theorem steps_of_some {s : Scanner} {pulled : Pull} (h : s.step? = some pulled) :
    s.steps = pulled :: pulled.after.steps := by
  have front := stepsAfter_append #[pulled] #[] pulled.after
  simp only [Array.append_empty] at front
  simp [steps, stepsAfter_of_some h, front]

theorem steps_of_none {s : Scanner} (h : s.step? = none) : s.steps = [] := by
  simp [steps, stepsAfter_of_none h]

end Scanner

/-! ### A whole text -/

/-- The tokens of a text, the end token last. -/
def tokenize (source : String) : List Token :=
  (Scanner.ofString source).collect.1

/-- What there is to report about a text, in order. -/
def eventsOf (source : String) : List Event :=
  (Scanner.ofString source).steps.flatMap Pull.events

end ScriptLexer
