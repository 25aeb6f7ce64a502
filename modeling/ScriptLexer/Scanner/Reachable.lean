/-
ScriptLexer/Scanner/Reachable.lean

The scanners that a source leads to: the one at its beginning, and whatever comes
of asking for tokens in any way and any order.  All of them are consistent, hold
the source as it was, and have a stream that ended only at the end of the text
(`Reachable.sound`).
-/
import ScriptLexer.Scanner.Unread

namespace ScriptLexer

namespace Scanner

/-! ### Histories -/

/-- What comes of a source by asking for tokens. -/
inductive Reachable (source : String) : Scanner → Prop where
  | start : Reachable source (ofString source)
  | pull {s : Scanner} : Reachable source s → Reachable source s.pull.after
  | next {s : Scanner} : Reachable source s → Reachable source s.next.2
  | nth {s : Scanner} (n : Nat) : Reachable source s → Reachable source (s.nth n).2
  | collect {s : Scanner} : Reachable source s → Reachable source s.collect.2

/-- The scanner is consistent, holds the source, and if its stream has ended, its
cursor is at the end. -/
structure Sound (source : String) (s : Scanner) : Prop where
  consistent : s.Consistent
  input_eq : s.input = source.toList.toArray
  ended : s.finished = true → s.position = s.input.size

/-! ### What a step of the stream keeps -/

section Kept

variable {P : Scanner → Prop}
  (keeps : ∀ {s : Scanner} {pulled : Pull}, P s → s.step? = some pulled → P pulled.after)

include keeps

theorem kept_next {s : Scanner} (h : P s) : P s.next.2 := by
  rcases step : s.step? with - | pulled
  · simpa [next, step] using h
  · simpa [next, step] using keeps h step

theorem kept_nth (n : Nat) {s : Scanner} (h : P s) : P (s.nth n).2 := by
  induction n generalizing s with
  | zero => exact kept_next keeps h
  | succ n ih =>
    have kept := kept_next keeps h
    rcases item : s.next with ⟨- | t, after⟩
    · rw [item] at kept
      simpa [nth, item] using kept
    · rw [item] at kept
      simpa [nth, item] using ih kept

/-- What a step keeps, all steps that are left keep. -/
theorem forall_steps {s : Scanner} (h : P s) : ∀ pulled ∈ s.steps, P pulled.after := by
  intro pulled mem
  rcases step : s.step? with - | first
  · rw [steps_of_none step] at mem
    exact nomatch mem
  · rw [steps_of_some step] at mem
    have kept := keeps h step
    rcases List.mem_cons.mp mem with rfl | later
    · exact kept
    · have := budget_step_lt step
      exact forall_steps kept pulled later
termination_by s.budget

theorem kept_collect {s : Scanner} (h : P s) : P s.collect.2 := by
  rcases last : s.steps.getLast? with - | pulled
  · simpa [collect, last] using h
  · have mem := List.mem_of_getLast? last
    simpa [collect, last] using forall_steps keeps h pulled mem

end Kept

/-! ### One request -/

theorem sound_ofString (source : String) : Sound source (ofString source) where
  consistent := consistent_ofString source
  input_eq := rfl
  ended := fun h => nomatch h

/-- A pull that gives the end leaves nothing to read. -/
theorem position_pull_of_isEof {s : Scanner} (h : s.Consistent)
    (eof : s.pull.token.isEof = true) : s.pull.after.position = s.input.size := by
  rcases left : s.unread.dropWhile isBlank with - | ⟨c, rest⟩
  · rw [pull_of_nil h left]
    have skipped := passes_skipBlanks h
    have nothing := (unread_skipBlanks h).trans left
    have length := s.skipBlanks.length_unread
    rw [nothing, skipped.input_eq, List.length_nil] at length
    have within := skipped.consistent.position_le
    rw [skipped.input_eq] at within
    show s.skipBlanks.position = s.input.size
    omega
  · rw [isEof_pull_of_cons h left] at eof
    exact nomatch eof

/-- A pull at the end stays there. -/
theorem position_pull_of_end {s : Scanner} (h : s.Consistent)
    (atEnd : s.position = s.input.size) : s.pull.after.position = s.input.size := by
  have nothing : s.unread = [] := List.drop_eq_nil_of_le (by simp [atEnd])
  have left : s.unread.dropWhile isBlank = [] := by rw [nothing]; rfl
  refine position_pull_of_isEof h ?_
  rw [pull_of_nil h left]
  rfl

theorem sound_pull {source : String} {s : Scanner} (h : Sound source s) :
    Sound source s.pull.after where
  consistent := consistent_pull h.consistent
  input_eq := (input_pull h.consistent).trans h.input_eq
  ended := fun finished => by
    rw [finished_pull h.consistent] at finished
    rw [position_pull_of_end h.consistent (h.ended finished), input_pull h.consistent]

theorem sound_step {source : String} {s : Scanner} {pulled : Pull} (h : Sound source s)
    (step : s.step? = some pulled) : Sound source pulled.after := by
  have pull := sound_pull h
  obtain ⟨-, ⟨-, rfl⟩ | ⟨eof, rfl⟩⟩ := step_cases step
  · exact pull
  · -- handing out the end changes the flag alone, and the cursor is at the end then
    have atEnd := position_pull_of_isEof h.consistent eof
    rw [← input_pull h.consistent] at atEnd
    exact ⟨pull.consistent.finish, pull.input_eq, fun _ => atEnd⟩

theorem sound_next {source : String} {s : Scanner} (h : Sound source s) :
    Sound source s.next.2 :=
  kept_next sound_step h

theorem sound_nth {source : String} (n : Nat) {s : Scanner} (h : Sound source s) :
    Sound source (s.nth n).2 :=
  kept_nth sound_step n h

theorem sound_collect {source : String} {s : Scanner} (h : Sound source s) :
    Sound source s.collect.2 :=
  kept_collect sound_step h

/-! ### Every history -/

theorem Reachable.sound {source : String} {s : Scanner} (h : Reachable source s) :
    Sound source s := by
  induction h with
  | start => exact sound_ofString source
  | pull _ ih => exact sound_pull ih
  | next _ ih => exact sound_next ih
  | nth n _ ih => exact sound_nth n ih
  | collect _ ih => exact sound_collect ih

end Scanner

end ScriptLexer
