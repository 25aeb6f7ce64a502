/-
ScriptLexer/Proofs/Progress.lean

Every pull gets on, until the end, where all pulls stay.

A pull moves the cursor over blanks and over its token.  A token that is not the end
has a character, so such a pull gets on; the end is given when only blanks are left
(`Scanner.isEof_pull_iff`), and behind them the cursor is at the end of the input.
There a pull is known whole: it gives the end, and the scanner it leaves is the one it
was asked of (`Scanner.AtEnd.pull_eq`).  No request leads away from there
(`Scanner.keeps_atEnd`).

That loops come to an end is said by counting their turns.  A loop is written down as
the turns that it takes (`Scanner.Halts` for a loop that moves the cursor,
`Scanner.Drains` for one that asks for items until there is none), and of such a run
there is only ever a finite one.  The cursor takes a turn for each character that
passes, and the stream has no more items than there are characters left, and the end.
-/
import ScriptLexer.Proofs.Bounds
import ScriptLexer.Proofs.Concatenation
import ScriptLexer.Proofs.Pulls

namespace ScriptLexer

/-! ### Counting tokens -/

/-- A text has no more tokens than characters. -/
theorem Lexes.length_le {text : List Char} {tokens : List Token} (h : Lexes text tokens) :
    tokens.length ≤ text.length := by
  induction h with
  | blank _ => exact Nat.zero_le _
  | @token gap t rest ts _ fits _ _ ih =>
    have nonempty := List.length_pos_iff.mpr (Token.literal_ne_nil fits)
    rw [List.length_cons, List.length_append, List.length_append]
    omega

namespace Scanner

/-! ### Loops, turn by turn -/

/-- The loop that moves the cursor on for as long as the test is passed.  From `s` it
comes to an end at `t`, after `n` turns. -/
inductive Halts (test : Char → Bool) : Nat → Scanner → Scanner → Prop
  | stop {s : Scanner} : s.current.any test = false → Halts test 0 s s
  | turn {n : Nat} {s t : Scanner} :
      s.current.any test = true → Halts test n s.advance t → Halts test (n + 1) s t

/-- The loop that asks for the next item until there is none.  From `s` it comes to an
end at `t`, and has been given the items. -/
inductive Drains : List Token → Scanner → Scanner → Prop
  | stop {s t : Scanner} : s.next = (none, t) → Drains [] s t
  | item {u us} {s after t : Scanner} :
      s.next = (some u, after) → Drains us after t → Drains (u :: us) s t

variable {s : Scanner}

/-- There is a turn for each character that passes, up to the first that does not. -/
theorem halts_advanceWhile (test : Char → Bool) (h : s.Consistent) :
    Halts test (s.unread.takeWhile test).length s (s.advanceWhile test) := by
  fun_induction advanceWhile test s with
  | case1 s c under pass ih =>
    have step := Guarded.passes_of_current h under
    rw [step.unread_eq, List.singleton_append, List.takeWhile_cons_of_pos pass]
    exact .turn (by rw [under]; exact pass) (ih step.consistent)
  | case2 s c under fail =>
    have step := Guarded.passes_of_current h under
    rw [step.unread_eq, List.singleton_append, List.takeWhile_cons_of_neg fail]
    exact .stop (by simpa [under] using fail)
  | case3 s under =>
    rw [current_eq_head? h, List.head?_eq_none_iff] at under
    rw [under]
    exact .stop (by rw [current_eq_head? h, under]; rfl)

/-- What is collected are the items up to the first that is missing. -/
theorem drains_collect (s : Scanner) : Drains s.collect.1 s s.collect.2 := by
  rcases step : s.step? with - | pulled
  · have item : s.next = (none, s) := by simp [next, step]
    rw [collect_eq, item]
    exact .stop item
  · have item : s.next = (some pulled.token, pulled.after) := by simp [next, step]
    have fewer := budget_step_lt step
    rw [collect_eq, item]
    exact .item item (drains_collect pulled.after)
termination_by s.budget

/-- The stream has no more items than there are characters left, and the end. -/
theorem length_collect_le (h : s.Consistent) : s.collect.1.length ≤ s.unread.length + 1 := by
  rcases ended : s.finished with - | -
  · have items : s.collect.1 = lexemes s.unread ++ [Token.eof] := tokens_steps h ended
    rw [items, List.length_append]
    exact Nat.succ_le_succ (lexes_lexemes s.unread).length_le
  · rw [collect_of_finished ended]
    exact Nat.zero_le _

/-! ### Where the end is given -/

theorem isEof_pull_iff (h : s.Consistent) :
    s.pull.token.isEof = true ↔ s.unread.all isBlank = true := by
  rw [← lexemes_eq_nil_iff]
  rcases left : s.unread.dropWhile isBlank with - | ⟨c, rest⟩
  · rw [pull_of_nil h left, lexemes_of_nil left]
    exact ⟨fun _ => rfl, fun _ => rfl⟩
  · rw [isEof_pull_of_cons h left, lexemes_of_cons left]
    exact iff_of_false Bool.false_ne_true (List.cons_ne_nil _ _)

theorem token_pull_of_isEof (h : s.Consistent) (eof : s.pull.token.isEof = true) :
    s.pull.token = .eof := by
  have nothing := lexemes_eq_nil_iff.mpr ((isEof_pull_iff h).mp eof)
  rw [(lexemes_unread_pull h).1, nothing]
  rfl

/-- A token that is not the end has a character. -/
theorem length_literal_pull_pos (h : s.Consistent) (more : s.pull.token.isEof = false) :
    1 ≤ s.pull.token.literal.length := by
  rcases left : s.unread.dropWhile isBlank with - | ⟨c, rest⟩
  · rw [pull_of_nil h left] at more
    cases more
  · have nonempty := Token.literal_ne_nil (wellFormed_pull h left)
    rw [← String.length_toList]
    exact List.length_pos_iff.mpr nonempty

/-! ### At the end -/

/-- The cursor is at the end of the input. -/
structure AtEnd (s : Scanner) : Prop where
  consistent : s.Consistent
  position_eq : s.position = s.input.size

/-- At the end a pull gives the end, and leaves everything as it is. -/
theorem AtEnd.pull_eq (h : s.AtEnd) : s.pull = s.pullEnd := by
  have nothing : s.current = none := by
    rw [h.consistent.current_eq, h.position_eq]
    exact Array.getElem?_size
  have stays : s.skipBlanks = s := advanceWhile_of_stops (by rw [nothing]; rfl)
  simp only [pull, stays, nothing]

theorem AtEnd.pullTimes_eq (h : s.AtEnd) (n : Nat) :
    pullTimes n s = (List.replicate n s.pullEnd, s) := by
  induction n with
  | zero => rfl
  | succ n ih =>
    rw [pullTimes, h.pull_eq]
    show (s.pullEnd :: (pullTimes n s).1, (pullTimes n s).2) = _
    rw [ih, List.replicate_succ]

theorem atEnd_pull (h : s.Consistent) (eof : s.pull.token.isEof = true) : s.pull.after.AtEnd where
  consistent := consistent_pull h
  position_eq := by rw [position_pull_of_isEof h eof, input_pull h]

/-- No request leads away from the end. -/
theorem keeps_atEnd : Keeps tokenSource AtEnd := by
  apply Keeps.of_step
  · intro s h
    rw [h.pull_eq]
    exact h
  · intro s pulled h found
    obtain ⟨-, ⟨-, rfl⟩ | ⟨-, rfl⟩⟩ := step_cases found
    · rw [h.pull_eq]
      exact h
    · -- the stream ends with it, which moves nothing
      rw [h.pull_eq]
      exact ⟨h.consistent.finish, h.position_eq⟩

/-! ### All that a source leads to -/

/-- What a pull does to a scanner, and how its loops end. -/
structure Progresses (s : Scanner) : Prop where
  /-- The end is given when only blanks are left. -/
  isEof_iff : s.pull.token.isEof = true ↔ ∀ c ∈ s.input.toList.drop s.position, c ∈ blanks
  /-- With the end, the cursor is at the end of the input.  Pulling once more gives the
  same, and changes nothing, as often as it is done. -/
  settles : s.pull.token.isEof = true →
    s.pull.token = .eof ∧ s.pull.after.position = s.input.size
      ∧ ∀ n, pullTimes n s.pull.after = (List.replicate n s.pull.after.pullEnd, s.pull.after)
  /-- So it is whatever has been asked of the scanner in the meantime. -/
  stays : s.pull.token.isEof = true → ∀ later,
    ∃ t, (Pool.after tokenSource [s.pull.after] later)[0]? = some t
      ∧ t.pull.token = .eof ∧ t.pull.after = t
  /-- Otherwise the cursor gets on, over the blanks and over the token. -/
  advances : s.pull.token.isEof = false →
    s.pull.after.position
        = s.position + ((s.input.toList.drop s.position).takeWhile (blanks.contains ·)).length
          + s.pull.token.literal.length
      ∧ 1 ≤ s.pull.token.literal.length
  /-- A loop over characters ends, in front of the blanks and behind them. -/
  halts : ∀ test, Halts test (s.unread.takeWhile test).length s (s.advanceWhile test)
    ∧ Halts test (s.skipBlanks.unread.takeWhile test).length s.skipBlanks
        (s.skipBlanks.advanceWhile test)
  /-- The loop over the stream ends. -/
  drains : Drains s.collect.1 s s.collect.2 ∧ s.collect.1.length ≤ s.unread.length + 1

theorem progresses_of_consistent {s : Scanner} (h : s.Consistent) : s.Progresses where
  isEof_iff := by
    rw [isEof_pull_iff h, List.all_eq_true]
    simp only [isBlank_eq_contains, List.contains_iff_mem]
    rfl
  settles := by
    intro eof
    exact ⟨token_pull_of_isEof h eof, position_pull_of_isEof h eof, (atEnd_pull h eof).pullTimes_eq⟩
  stays := by
    intro eof later
    have here : ∃ t, ([s.pull.after] : Pool Scanner)[0]? = some t ∧ t.AtEnd :=
      ⟨_, rfl, atEnd_pull h eof⟩
    obtain ⟨t, member, atEnd⟩ := keeps_atEnd.exists_after here later
    refine ⟨t, member, ?_⟩
    rw [atEnd.pull_eq]
    exact ⟨rfl, rfl⟩
  advances := by
    intro more
    have passed := (passes_pull h).position_eq
    rw [List.length_append, String.length_toList, funext isBlank_eq_contains, ← Nat.add_assoc]
      at passed
    exact ⟨passed, length_literal_pull_pos h more⟩
  halts := by
    intro test
    exact ⟨halts_advanceWhile test h, halts_advanceWhile test (passes_skipBlanks h).consistent⟩
  drains := ⟨drains_collect s, length_collect_le h⟩

/-- **Every pull gets on until the end, and the end is for good**, from any scanner that
a source leads to.  So the loops come to an end on every source, and a source has one
end, behind no more tokens than it has characters. -/
theorem reachable_progresses (source : String) :
    (∀ s, Reachable source s → s.Progresses)
      ∧ (tokenize source).length ≤ source.length + 1
      ∧ (tokenize source).filter Token.isEof = [Token.eof]
      ∧ (tokenize source).getLast? = some Token.eof := by
  refine ⟨fun s h => progresses_of_consistent h.sound.consistent, ?_, ?_, ?_⟩
  · have fewer := length_collect_le (consistent_ofString source)
    rwa [unread_ofString, String.length_toList] at fewer
  · rw [tokenize_eq, List.filter_append, List.filter_eq_nil_iff.mpr]
    · rfl
    · intro t mem
      rw [not_isEof_of_mem_lexemes mem]
      exact Bool.false_ne_true
  · rw [tokenize_eq, List.getLast?_concat]

/-- From behind a word, a pull gets on over two blanks and a symbol, and the next one
over the blank at the end. -/
theorem reachable_progresses_of_blanks :
    Reachable "a \t==\n" (ofString "a \t==\n").pull.after
      ∧ (ofString "a \t==\n").pull.after.Progresses
      ∧ (ofString "a \t==\n").pull.after.pull.after.position = 5
      ∧ (ofString "a \t==\n").pull.after.pull.after.Progresses
      ∧ (ofString "a \t==\n").pull.after.pull.after.pull.token = .eof := by
  have first : Reachable "a \t==\n" (ofString "a \t==\n").pull.after := .pull .start
  obtain ⟨progresses, -⟩ := reachable_progresses "a \t==\n"
  have more : (ofString "a \t==\n").pull.after.pull.token.isEof = false := by decide +kernel
  have last : (ofString "a \t==\n").pull.after.pull.after.pull.token.isEof = true := by
    decide +kernel
  refine ⟨first, progresses _ first, ?_, progresses _ first.pull, ?_⟩
  · rw [((progresses _ first).advances more).1]
    decide +kernel
  · exact ((progresses _ first.pull).settles last).1

end Scanner

end ScriptLexer
