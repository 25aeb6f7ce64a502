/-
ScriptLexer/Proofs/Bounds.lean

The cursor never leaves its bounds.

The movements of a scanner are total: an index can be as large as it likes, and a
slice of what is not there is a shorter slice.  A machine is not so forgiving.  So
the scanner is written down once more as a machine runs it (`Guarded`): an index
that would pass the greatest one ends the run, and so does a slice that does not
lie within the input.  Its loops end by the guards alone, for each turn of a loop
moves an index towards the greatest one; nothing about the input is made use of.

Main statement: whatever is asked of a scanner that a source leads to, the guarded
run goes through and gives the same, if only the indices go one past the length of
the source (`reachable_inBounds`).  So no guard is ever hit.  That is not a property
of `advance`, which at the end of the input would leave it; it holds because nothing
advances but over a character (`advance?_eq`), and a slice is only taken from where
the cursor has been (`slice?_eq`).
-/
import ScriptLexer.Proofs.Remainder

namespace ScriptLexer

namespace Scanner

/-! ### The guarded scanner -/

namespace Guarded

/-- Moves the cursor one character on, if `limit`, the greatest index, is not
passed by it. -/
def advance? (limit : Nat) (s : Scanner) : Option Scanner :=
  if s.readPosition < limit then some s.advance else none

/-- A scanner at the beginning of a source. -/
def ofString? (limit : Nat) (source : String) : Option Scanner :=
  advance? limit
    { input := source.toList.toArray
      position := 0
      readPosition := 0
      current := none
      finished := false }

/-- Wherever the cursor can move, it leaves less room to move. -/
theorem room_advance? {limit : Nat} {s next : Scanner} (moved : advance? limit s = some next) :
    limit - next.readPosition < limit - s.readPosition := by
  unfold advance? at moved
  split at moved
  next room =>
    obtain rfl : s.advance = next := Option.some.inj moved
    exact Nat.sub_succ_lt_self limit s.readPosition room
  next => cases moved

/-- Moves the cursor on for as long as the test is passed. -/
def advanceWhile? (limit : Nat) (test : Char → Bool) (s : Scanner) : Option Scanner :=
  match s.current with
  | some c =>
    if test c then
      match _moved : advance? limit s with
      | some next => advanceWhile? limit test next
      | none => none
    else some s
  | none => some s
termination_by limit - s.readPosition
decreasing_by exact room_advance? ‹_›

/-- The text from an index up to the cursor, if both lie in the input, in this
order. -/
def slice? (s : Scanner) (start : Nat) : Option String :=
  if start ≤ s.position ∧ s.position ≤ s.input.size then some (s.slice start) else none

/-- Moves the cursor over the characters that pass the test and gives their
text. -/
def takeRun? (limit : Nat) (test : Char → Bool) (s : Scanner) : Option (String × Scanner) := do
  let after ← advanceWhile? limit test s
  return (← slice? after s.position, after)

/-- A symbol of two characters. -/
def pullPair? (limit : Nat) (s : Scanner) (symbol : Symbol) : Option Pull := do
  let after ← advance? limit (← advance? limit s)
  return after.emit (.symbol symbol) (← slice? after s.position) s.position

/-- A symbol of one character. -/
def pullSymbol? (limit : Nat) (s : Scanner) (symbol : Symbol) (c : Char) : Option Pull := do
  return (← advance? limit s).emit (.symbol symbol) (String.singleton c) s.position

/-- A word. -/
def pullWord? (limit : Nat) (s : Scanner) : Option Pull := do
  let (word, after) ← takeRun? limit isWordChar s
  return after.emit (.ofWord word) word s.position

/-- An integer. -/
def pullNumber? (limit : Nat) (s : Scanner) : Option Pull := do
  let (digits, after) ← takeRun? limit isDigit s
  return after.emit .int digits s.position

/-- A character that belongs to nothing. -/
def pullIllegal? (limit : Nat) (s : Scanner) (c : Char) : Option Pull := do
  let pulled := (← advance? limit s).emit .illegal (String.singleton c) s.position
  return { pulled with events := .illegal c s.position :: pulled.events }

/-- The token that begins with the character `c` under the cursor. -/
def pullFrom? (limit : Nat) (s : Scanner) (c : Char) : Option Pull :=
  match Symbol.ofPair? c s.peek? with
  | some symbol => pullPair? limit s symbol
  | none =>
    match Symbol.ofChar? c with
    | some symbol => pullSymbol? limit s symbol c
    | none =>
      if isLetter c then pullWord? limit s
      else if isDigit c then pullNumber? limit s
      else pullIllegal? limit s c

/-- Reads the next token. -/
def pull? (limit : Nat) (s : Scanner) : Option Pull := do
  let here ← advanceWhile? limit isBlank s
  match here.current with
  | some c => pullFrom? limit here c
  | none => return here.pullEnd

/-- The next item of the stream, and the scanner after it. -/
def next? (limit : Nat) (s : Scanner) : Option (Option Token × Scanner) :=
  if s.finished then some (none, s)
  else do
    let pulled := handOut (← pull? limit s)
    return (some pulled.token, pulled.after)

/-- The item that follows the next `n` ones. -/
def nth? (limit : Nat) : Nat → Scanner → Option (Option Token × Scanner)
  | 0, s => next? limit s
  | n + 1, s => do
    match ← next? limit s with
    | (some _, after) => nth? limit n after
    | (none, after) => return (none, after)

/-- Takes items until there is none, asking no more than `n` times. -/
def takeItems? (limit : Nat) : Nat → Scanner → Option (List Token × Scanner)
  | 0, _ => none
  | n + 1, s => do
    match ← next? limit s with
    | (some t, after) => do
      let (others, last) ← takeItems? limit n after
      return (t :: others, last)
    | (none, after) => return ([], after)

/-- Takes items until there is none.  An index counts them, so there can be no more
of them than the greatest one, and asking once more has to give none. -/
def collect? (limit : Nat) (s : Scanner) : Option (List Token × Scanner) :=
  takeItems? limit (limit + 1) s

/-! ### No guard is hit -/

section Guards

variable {limit : Nat} {s : Scanner}

/-- Over a character the cursor can move. -/
theorem advance?_eq {c : Char} (h : s.Consistent) (fits : s.input.size < limit)
    (under : s.current = some c) : advance? limit s = some s.advance := by
  -- a character is only under the cursor within the input
  have inside : s.position < s.input.size := by
    rw [h.current_eq] at under
    exact (Array.getElem?_eq_some_iff.mp under).1
  have room : s.readPosition < limit := by
    rw [h.readPosition_eq]
    omega
  rw [advance?, if_pos room]

theorem passes_of_current {c : Char} (h : s.Consistent) (under : s.current = some c) :
    s.Passes [c] s.advance := by
  rw [current_eq_head? h] at under
  obtain ⟨rest, left⟩ := List.head?_eq_some_iff.mp under
  exact passes_advance h left

theorem advanceWhile?_eq (test : Char → Bool) (h : s.Consistent)
    (fits : s.input.size < limit) :
    advanceWhile? limit test s = some (s.advanceWhile test) := by
  fun_induction advanceWhile test s with
  | case1 s c under pass ih =>
    have step := passes_of_current h under
    have moves := advance?_eq h fits under
    rw [advanceWhile?, under]
    simp only [pass, if_true]
    split
    next next moved =>
      obtain rfl : next = s.advance := Option.some.inj (moved.symm.trans moves)
      exact ih step.consistent (step.input_eq ▸ fits)
    next stuck => exact absurd (moves.symm.trans stuck) (Option.some_ne_none _)
  | case2 s c under fail =>
    rw [advanceWhile?, under]
    simp only [fail]
    rfl
  | case3 s under =>
    rw [advanceWhile?, under]

/-- From where the cursor has been to where it is, there is a slice. -/
theorem slice?_eq {t : Scanner} {passed : List Char} (h : s.Passes passed t) :
    slice? t s.position = some (t.slice s.position) := by
  have order : s.position ≤ t.position := by
    rw [h.position_eq]
    exact Nat.le_add_right _ _
  rw [slice?, if_pos ⟨order, h.consistent.position_le⟩]

theorem takeRun?_eq (test : Char → Bool) (h : s.Consistent) (fits : s.input.size < limit) :
    takeRun? limit test s = some (s.takeRun test) := by
  simp only [takeRun?, advanceWhile?_eq test h fits, Option.bind_eq_bind, Option.bind_some,
    slice?_eq (passes_advanceWhile test h)]
  rfl

theorem pullPair?_eq {c : Char} (h : s.Consistent) (fits : s.input.size < limit)
    (under : s.current = some c) (peek : s.peek? = some '=') (symbol : Symbol) :
    pullPair? limit s symbol = some (s.pullPair symbol) := by
  -- the second step is over the character that was looked at, so it has room too
  have first := passes_of_current h under
  have second := passes_of_current first.consistent peek
  have fits' : s.advance.input.size < limit := by
    rw [first.input_eq]
    exact fits
  simp only [pullPair?, advance?_eq h fits under, Option.bind_eq_bind, Option.bind_some,
    advance?_eq first.consistent fits' peek, slice?_eq (first.trans second)]
  rfl

theorem pullFrom?_eq {c : Char} (h : s.Consistent) (fits : s.input.size < limit)
    (under : s.current = some c) : pullFrom? limit s c = some (s.pullFrom c) := by
  have step := advance?_eq h fits under
  rw [pullFrom?, pullFrom]
  rcases pair : Symbol.ofPair? c s.peek? with - | symbol
  · rcases single : Symbol.ofChar? c with - | symbol
    · by_cases letter : isLetter c = true
      · simp only [letter, if_true, pullWord?, takeRun?_eq isWordChar h fits]
        rfl
      · by_cases digit : isDigit c = true
        · simp only [letter, digit, if_true, pullNumber?, takeRun?_eq isDigit h fits]
          rfl
        · simp only [letter, digit, pullIllegal?, step]
          rfl
    · simp only [pullSymbol?, step]
      rfl
  · exact pullPair?_eq h fits under (ofPair?_eq_some pair) symbol

theorem pull?_eq (h : s.Consistent) (fits : s.input.size < limit) :
    pull? limit s = some s.pull := by
  have skipped := passes_skipBlanks h
  have fits' : s.skipBlanks.input.size < limit := by
    rw [skipped.input_eq]
    exact fits
  rw [pull?, advanceWhile?_eq isBlank h fits]
  -- behind the blanks there is a character, or the end
  show (match s.skipBlanks.current with
    | some c => pullFrom? limit s.skipBlanks c
    | none => some s.skipBlanks.pullEnd) = some s.pull
  rcases under : s.skipBlanks.current with - | c
  · simp only [pull, under]
  · simp only [pull, under]
    exact pullFrom?_eq skipped.consistent fits' under

theorem next?_eq (h : s.Consistent) (fits : s.input.size < limit) :
    next? limit s = some s.next := by
  rcases ended : s.finished with - | -
  · simp only [next?, next, step?, ended, pull?_eq h fits, Bool.false_eq_true, if_false]
    rfl
  · rw [next?, if_pos ended, next_of_finished ended]

/-- The scanner after an item is consistent, and has the same input. -/
theorem consistent_next (h : s.Consistent) :
    s.next.2.Consistent ∧ s.next.2.input = s.input := by
  apply kept_next (P := fun t => t.Consistent ∧ t.input = s.input)
  · rintro t pulled ⟨consistent, same⟩ step
    have after := consistent_pull consistent
    have input := (input_pull consistent).trans same
    obtain ⟨-, ⟨-, rfl⟩ | ⟨-, rfl⟩⟩ := step_cases step
    · exact ⟨after, input⟩
    · exact ⟨after.finish, input⟩
  · exact ⟨h, rfl⟩

theorem nth?_eq (n : Nat) (h : s.Consistent) (fits : s.input.size < limit) :
    nth? limit n s = some (s.nth n) := by
  induction n generalizing s with
  | zero => exact next?_eq h fits
  | succ n ih =>
    obtain ⟨consistent, input⟩ := consistent_next h
    rw [nth?, next?_eq h fits, nth]
    rcases item : s.next with ⟨- | t, after⟩
    · rfl
    · rw [item] at consistent input
      exact ih consistent (input ▸ fits)

/-- There are no more items than characters, and the end. -/
theorem budget_le (h : s.Consistent) : s.budget ≤ s.input.size + 1 := by
  have left : s.remaining ≤ s.input.size := by
    rw [remaining, h.readPosition_eq, h.current_eq]
    by_cases inside : s.position < s.input.size
    · rw [Array.getElem?_eq_getElem inside, Option.isSome_some, if_pos rfl]
      omega
    · rw [Array.getElem?_eq_none (Nat.le_of_not_lt inside), Option.isSome_none]
      simp
  rw [budget]
  split
  · exact Nat.zero_le _
  · exact Nat.succ_le_succ left

theorem takeItems?_eq {n : Nat} (h : s.Consistent) (fits : s.input.size < limit)
    (enough : s.budget < n) : takeItems? limit n s = some s.collect := by
  induction n generalizing s with
  | zero => exact absurd enough (Nat.not_lt_zero _)
  | succ n ih =>
    -- each item lowers the budget, so it runs out before the times to ask do
    obtain ⟨consistent, input⟩ := consistent_next h
    rw [takeItems?, next?_eq h fits, collect_eq]
    rcases step : s.step? with - | pulled
    · have item : s.next = (none, s) := by simp [next, step]
      rw [item]
      rfl
    · have item : s.next = (some pulled.token, pulled.after) := by simp [next, step]
      have fewer : pulled.after.budget < n :=
        Nat.lt_of_lt_of_le (budget_step_lt step) (Nat.le_of_lt_succ enough)
      rw [item] at consistent input ⊢
      have others := ih consistent (input ▸ fits) fewer
      simp only [Option.bind_eq_bind, Option.bind_some, others]
      rfl

theorem collect?_eq (h : s.Consistent) (fits : s.input.size < limit) :
    collect? limit s = some s.collect := by
  have enough : s.budget < limit + 1 :=
    Nat.lt_succ_of_le (Nat.le_trans (budget_le h) fits)
  exact takeItems?_eq h fits enough

end Guards

end Guarded

/-! ### All that a source leads to -/

/-- What is true of a scanner that a source has led to, and of whatever is asked of
it next. -/
structure InBounds (source : String) (s : Scanner) : Prop where
  /-- The input is the source as it was. -/
  input_eq : s.input.toList = source.toList
  readPosition_eq : s.readPosition = s.position + 1
  position_le : s.position ≤ s.input.size
  /-- Under the cursor is the character at its index, and nothing at the end. -/
  current_eq : s.current = s.input[s.position]?
  current_eq_none_iff : s.current = none ↔ s.input.size < s.readPosition
  ended : s.finished = true → s.current = none ∧ s.position = s.input.size
  finished_pull : s.pull.after.finished = s.finished
  finished_stays : s.finished = true → s.next.2.finished = true
    ∧ (∀ n, (s.nth n).2.finished = true) ∧ s.collect.2.finished = true
  /-- If the index after the end of the input fits, no index that comes up passes
  the greatest one, and every slice that is taken lies before the cursor. -/
  guarded : ∀ limit, s.input.size < limit →
    Guarded.ofString? limit source = some (ofString source)
      ∧ Guarded.pull? limit s = some s.pull
      ∧ Guarded.next? limit s = some s.next
      ∧ (∀ n, Guarded.nth? limit n s = some (s.nth n))
      ∧ Guarded.collect? limit s = some s.collect

/-- With nothing under the cursor, the next index is past the input. -/
theorem current_eq_none_iff {s : Scanner} (h : s.Consistent) :
    s.current = none ↔ s.input.size < s.readPosition := by
  rw [h.current_eq, Array.getElem?_eq_none_iff, h.readPosition_eq]
  exact Nat.lt_succ_iff.symm

/-- **The cursor keeps within its bounds**, whatever has been asked of a scanner
and whatever is asked of it next.  A copy is the scanner it is a copy of, and so
in bounds as well. -/
theorem reachable_inBounds {source : String} {s : Scanner} (h : Reachable source s) :
    InBounds source s where
  input_eq := by rw [h.sound.input_eq]
  readPosition_eq := h.sound.consistent.readPosition_eq
  position_le := h.sound.consistent.position_le
  current_eq := h.sound.consistent.current_eq
  current_eq_none_iff := current_eq_none_iff h.sound.consistent
  ended := by
    intro halted
    have atEnd := h.sound.ended halted
    refine ⟨?_, atEnd⟩
    rw [h.sound.consistent.current_eq, atEnd]
    exact Array.getElem?_size
  finished_pull := finished_pull h.sound.consistent
  finished_stays := by
    intro halted
    refine ⟨?_, ?_, ?_⟩
    · rw [next_of_finished halted]
      exact halted
    · intro n
      rw [nth_of_finished halted]
      exact halted
    · rw [collect_of_finished halted]
      exact halted
  guarded := by
    intro limit fits
    have consistent := h.sound.consistent
    refine ⟨?_, Guarded.pull?_eq consistent fits, Guarded.next?_eq consistent fits, ?_,
      Guarded.collect?_eq consistent fits⟩
    · -- the first step is made from in front of the input
      exact if_pos (Nat.zero_lt_of_lt fits)
    · intro n
      exact Guarded.nth?_eq n consistent fits

/-- A scanner that three requests of different kinds have led to.  The last of them went past
the end of the stream, so the cursor is behind the text. -/
theorem reachable_inBounds_of_mixed :
    Reachable "a == 1" (((ofString "a == 1").next.2.pull.after.nth 3).2)
      ∧ InBounds "a == 1" (((ofString "a == 1").next.2.pull.after.nth 3).2) :=
  ⟨.nth 3 (.pull (.next .start)), reachable_inBounds (.nth 3 (.pull (.next .start)))⟩

end Scanner

end ScriptLexer
