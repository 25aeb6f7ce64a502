/-
ScriptLexer/Scanner/Unread.lean

What a scanner has left to read.

The fields of a scanner repeat each other: the next index is one more than the
index, and the character under the cursor is the one at that index.  A scanner of
which this is true is consistent; every scanner that begins at a source is, and
every movement that the scanner makes keeps it so.  A consistent scanner is known
by the text from its cursor on, `unread`, and here each operation is told in terms
of that text:

* a run drops the longest run of characters that pass (`unread_advanceWhile`) and
  gives their text (`takeRun_fst`);
* a pull drops the blanks, cuts off the lexeme and stops behind it (`reads_pull`,
  `unread_pull_of_cons`);
* the stream gives the lexemes of the text, then the end (`tokens_steps`), so a
  text amounts to its lexemes (`tokenize_eq`).
-/
import ScriptLexer.Lexeme
import ScriptLexer.Scanner.Stream

namespace ScriptLexer

namespace Scanner

/-! ### Consistency and the text that is left -/

/-- The fields of the scanner agree, and the cursor has not left the input by more
than its end. -/
structure Consistent (s : Scanner) : Prop where
  readPosition_eq : s.readPosition = s.position + 1
  current_eq : s.current = s.input[s.position]?
  position_le : s.position ≤ s.input.size

/-- The characters from the cursor on. -/
def unread (s : Scanner) : List Char :=
  s.input.toList.drop s.position

/-- Scanner `t` comes from `s` by moving the cursor over `passed`. -/
structure Passes (s : Scanner) (passed : List Char) (t : Scanner) : Prop where
  consistent : t.Consistent
  input_eq : t.input = s.input
  finished_eq : t.finished = s.finished
  position_eq : t.position = s.position + passed.length
  unread_eq : s.unread = passed ++ t.unread

theorem Passes.refl {s : Scanner} (h : s.Consistent) : s.Passes [] s :=
  ⟨h, rfl, rfl, rfl, rfl⟩

theorem Passes.trans {s t u : Scanner} {front back : List Char} (first : s.Passes front t)
    (second : t.Passes back u) : s.Passes (front ++ back) u where
  consistent := second.consistent
  input_eq := second.input_eq.trans first.input_eq
  finished_eq := second.finished_eq.trans first.finished_eq
  position_eq := by
    rw [second.position_eq, first.position_eq, List.length_append, Nat.add_assoc]
  unread_eq := by rw [first.unread_eq, second.unread_eq, List.append_assoc]

theorem current_eq_head? {s : Scanner} (h : s.Consistent) : s.current = s.unread.head? := by
  rw [h.current_eq, unread, List.head?_drop, Array.getElem?_toList]

theorem peek?_eq {s : Scanner} (h : s.Consistent) : s.peek? = s.unread.tail.head? := by
  rw [peek?, h.readPosition_eq, unread, List.tail_drop, List.head?_drop, Array.getElem?_toList]

theorem length_unread (s : Scanner) : s.unread.length = s.input.size - s.position := by
  simp [unread]

/-- The end of the stream is no matter of the cursor. -/
theorem Consistent.finish {s : Scanner} (h : s.Consistent) : s.finish.Consistent where
  readPosition_eq := h.readPosition_eq
  current_eq := h.current_eq
  position_le := h.position_le

/-! ### The beginning -/

theorem consistent_ofString (source : String) : (ofString source).Consistent where
  readPosition_eq := rfl
  current_eq := rfl
  position_le := Nat.zero_le _

theorem unread_ofString (source : String) : (ofString source).unread = source.toList := by
  simp [ofString, advance, unread]

/-! ### One step -/

theorem passes_advance {s : Scanner} (h : s.Consistent) {c : Char} {rest : List Char}
    (left : s.unread = c :: rest) : s.Passes [c] s.advance := by
  have inside : s.position < s.input.size := by
    have := s.length_unread
    rw [left] at this
    simp only [List.length_cons] at this
    omega
  have tail : s.advance.unread = rest := by
    have : s.advance.unread = s.unread.tail := by
      simp [unread, advance, h.readPosition_eq]
    rw [this, left, List.tail_cons]
  refine ⟨⟨rfl, rfl, ?_⟩, rfl, rfl, h.readPosition_eq, ?_⟩
  · show s.readPosition ≤ s.input.size
    rw [h.readPosition_eq]
    exact inside
  · rw [tail, left, List.singleton_append]

/-! ### Runs -/

theorem passes_advanceWhile (test : Char → Bool) {s : Scanner} (h : s.Consistent) :
    s.Passes (s.unread.takeWhile test) (s.advanceWhile test) := by
  -- by induction on the run; what the cursor passes is put together step by step
  fun_induction advanceWhile test s with
  | case1 s c under pass ih =>
    rw [current_eq_head? h] at under
    obtain ⟨rest, left⟩ := List.head?_eq_some_iff.mp under
    have step := passes_advance h left
    have whole := step.trans (ih step.consistent)
    have tail : s.advance.unread = rest := by
      have := step.unread_eq
      rw [left, List.singleton_append] at this
      exact (List.cons.inj this).2.symm
    rwa [tail, List.singleton_append, ← List.takeWhile_cons_of_pos (l := rest) pass, ← left]
      at whole
  | case2 s c under fail =>
    rw [current_eq_head? h] at under
    obtain ⟨rest, left⟩ := List.head?_eq_some_iff.mp under
    rw [left, List.takeWhile_cons_of_neg fail]
    exact .refl h
  | case3 s under =>
    rw [current_eq_head? h, List.head?_eq_none_iff] at under
    rw [under]
    exact .refl h

theorem unread_advanceWhile (test : Char → Bool) {s : Scanner} (h : s.Consistent) :
    (s.advanceWhile test).unread = s.unread.dropWhile test := by
  have := (passes_advanceWhile test h).unread_eq
  exact List.append_cancel_left
    (this.symm.trans (List.takeWhile_append_dropWhile (p := test) (l := s.unread)).symm)

/-- In the input, from a scanner to one that it came to, stands the text between them. -/
theorem extract_of_passes {s t : Scanner} {passed : List Char} (h : s.Passes passed t) :
    s.input.toList.extract s.position t.position = passed := by
  rw [List.extract_eq_take_drop, ← unread, h.unread_eq, h.position_eq, Nat.add_sub_cancel_left,
    List.take_left]

/-- The slice from a scanner to one that it came to is the text between them. -/
theorem slice_of_passes {s t : Scanner} {passed : List Char} (h : s.Passes passed t) :
    t.slice s.position = String.ofList passed := by
  rw [slice, h.input_eq, Array.toList_extract, extract_of_passes h]

theorem takeRun_fst (test : Char → Bool) {s : Scanner} (h : s.Consistent) :
    (s.takeRun test).1 = String.ofList (s.unread.takeWhile test) :=
  slice_of_passes (passes_advanceWhile test h)

theorem takeRun_snd (test : Char → Bool) (s : Scanner) :
    (s.takeRun test).2 = s.advanceWhile test := rfl

/-! ### A pull -/

/-- The pull `p` from the scanner `s` reads the token `t`, which begins with the
character `c` under the cursor. -/
structure Reads (s : Scanner) (c : Char) (t : Token) (p : Pull) : Prop where
  token_eq : p.token = t
  start_eq : p.start = s.position
  passes : s.Passes t.literal.toList p.after
  events_eq : p.events =
    if t.isIllegal then [.illegal c s.position, .token t] else [.token t]

theorem reads_emit {s after : Scanner} {c : Char} {kind : Kind} {literal : String}
    (legal : kind ≠ .illegal) (passes : s.Passes literal.toList after) :
    s.Reads c ⟨kind, literal⟩ (after.emit kind literal s.position) where
  token_eq := rfl
  start_eq := rfl
  passes := passes
  events_eq := by simp [emit, Token.isIllegal, legal]

/-- With a character under the cursor, a pull reads the lexeme that begins there. -/
theorem reads_pullFrom {s : Scanner} (h : s.Consistent) {c : Char} {rest : List Char}
    (left : s.unread = c :: rest) :
    s.Reads c (splitLexeme c rest).1 (s.pullFrom c) := by
  have step := passes_advance h left
  have peek : s.peek? = rest.head? := by rw [peek?_eq h, left, List.tail_cons]
  rcases pair : Symbol.ofPair? c rest.head? with - | symbol
  · rcases single : Symbol.ofChar? c with - | symbol
    · by_cases letter : isLetter c = true
      · -- a word
        have word : s.unread.takeWhile isWordChar = c :: rest.takeWhile isWordChar := by
          rw [left, List.takeWhile_cons_of_pos (by simp [isWordChar, letter])]
        have run := passes_advanceWhile isWordChar h
        rw [word] at run
        simp only [pullFrom, splitLexeme, peek, pair, single, letter, if_true, pullWord,
          takeRun_fst _ h, takeRun_snd, word]
        exact reads_emit (Kind.ofWord_ne_illegal _) (by simpa using run)
      · by_cases digit : isDigit c = true
        · -- an integer
          have digits : s.unread.takeWhile isDigit = c :: rest.takeWhile isDigit := by
            rw [left, List.takeWhile_cons_of_pos digit]
          have run := passes_advanceWhile isDigit h
          rw [digits] at run
          simp only [pullFrom, splitLexeme, peek, pair, single, letter, digit, if_true,
            pullNumber, takeRun_fst _ h, takeRun_snd, digits]
          exact reads_emit (by simp) (by simpa using run)
        · -- an illegal character
          simp only [pullFrom, splitLexeme, peek, pair, single, letter, digit]
          exact ⟨rfl, rfl, by simpa [pullIllegal, emit] using step, rfl⟩
    · -- a symbol of one character
      simp only [pullFrom, splitLexeme, peek, pair, single, pullSymbol]
      exact reads_emit (by simp) (by simpa using step)
  · -- a symbol of two characters
    obtain ⟨tail, rfl⟩ := List.head?_eq_some_iff.mp (ofPair?_eq_some pair)
    have two := step.trans (passes_advance step.consistent
      (List.cons.inj (left.symm.trans step.unread_eq)).2.symm)
    simp only [pullFrom, splitLexeme, peek, pair, pullPair, slice_of_passes two]
    exact reads_emit (by simp) (by simpa using two)

/-- The scanner behind the blanks, where a pull begins. -/
theorem passes_skipBlanks {s : Scanner} (h : s.Consistent) :
    s.Passes (s.unread.takeWhile isBlank) s.skipBlanks :=
  passes_advanceWhile isBlank h

theorem unread_skipBlanks {s : Scanner} (h : s.Consistent) :
    s.skipBlanks.unread = s.unread.dropWhile isBlank :=
  unread_advanceWhile isBlank h

/-- A pull with more than blanks left reads the lexeme after the blanks. -/
theorem reads_pull {s : Scanner} (h : s.Consistent) {c : Char} {rest : List Char}
    (left : s.unread.dropWhile isBlank = c :: rest) :
    s.skipBlanks.Reads c (splitLexeme c rest).1 s.pull := by
  have behind := (unread_skipBlanks h).trans left
  have here := (passes_skipBlanks h).consistent
  have under : s.skipBlanks.current = some c := by rw [current_eq_head? here, behind]; rfl
  simp only [pull, under]
  exact reads_pullFrom here behind

/-- A pull with only blanks left goes to the end. -/
theorem pull_of_nil {s : Scanner} (h : s.Consistent)
    (left : s.unread.dropWhile isBlank = []) : s.pull = s.skipBlanks.pullEnd := by
  have behind := (unread_skipBlanks h).trans left
  have under : s.skipBlanks.current = none := by
    rw [current_eq_head? (passes_skipBlanks h).consistent, behind]; rfl
  simp only [pull, under]

/-- After a pull, the text after the lexeme is left. -/
theorem unread_pull_of_cons {s : Scanner} (h : s.Consistent) {c : Char} {rest : List Char}
    (left : s.unread.dropWhile isBlank = c :: rest) :
    s.pull.after.unread = (splitLexeme c rest).2 := by
  have read := (reads_pull h left).passes.unread_eq
  rw [unread_skipBlanks h, left] at read
  exact List.append_cancel_left (read.symm.trans (literal_append_splitLexeme c rest).symm)

/-- From behind the blanks, a pull moves the cursor over its token, be it the end. -/
theorem passes_literal {s : Scanner} (h : s.Consistent) :
    s.skipBlanks.Passes s.pull.token.literal.toList s.pull.after := by
  rcases left : s.unread.dropWhile isBlank with - | ⟨c, rest⟩
  · rw [pull_of_nil h left]
    exact .refl (passes_skipBlanks h).consistent
  · have read := reads_pull h left
    rw [read.token_eq]
    exact read.passes

/-- A pull moves the cursor over the blanks and its token. -/
theorem passes_pull {s : Scanner} (h : s.Consistent) :
    s.Passes (s.unread.takeWhile isBlank ++ s.pull.token.literal.toList) s.pull.after :=
  (passes_skipBlanks h).trans (passes_literal h)

/-- The token of a pull begins behind the blanks. -/
theorem start_pull {s : Scanner} (h : s.Consistent) : s.pull.start = s.skipBlanks.position := by
  rcases left : s.unread.dropWhile isBlank with - | ⟨c, rest⟩
  · rw [pull_of_nil h left]
    rfl
  · exact (reads_pull h left).start_eq

theorem consistent_pull {s : Scanner} (h : s.Consistent) : s.pull.after.Consistent :=
  (passes_pull h).consistent

theorem finished_pull {s : Scanner} (h : s.Consistent) : s.pull.after.finished = s.finished :=
  (passes_pull h).finished_eq

theorem input_pull {s : Scanner} (h : s.Consistent) : s.pull.after.input = s.input :=
  (passes_pull h).input_eq

/-- A lexeme makes what is left shorter. -/
theorem length_unread_pull_lt {s : Scanner} (h : s.Consistent) {c : Char} {rest : List Char}
    (left : s.unread.dropWhile isBlank = c :: rest) :
    s.pull.after.unread.length < s.unread.length := by
  have dropped := (List.dropWhile_suffix (l := s.unread) isBlank).length_le
  have cut := length_splitLexeme_lt c rest
  rw [left] at dropped
  rw [unread_pull_of_cons h left]
  exact Nat.lt_of_lt_of_le cut dropped

/-- A lexeme is not the end. -/
theorem isEof_pull_of_cons {s : Scanner} (h : s.Consistent) {c : Char} {rest : List Char}
    (left : s.unread.dropWhile isBlank = c :: rest) : s.pull.token.isEof = false := by
  rw [(reads_pull h left).token_eq, isEof_splitLexeme]

/-! ### The stream -/

/-- With only blanks left, a stream that has not ended gives the end, and has ended. -/
theorem steps_of_nil {s : Scanner} (h : s.Consistent) (going : s.finished = false)
    (left : s.unread.dropWhile isBlank = []) : s.steps = [handOut s.skipBlanks.pullEnd] := by
  have step : s.step? = some (handOut s.skipBlanks.pullEnd) := by
    simp [step?, going, pull_of_nil h left]
  have ended : (handOut s.skipBlanks.pullEnd).after.step? = none := by
    simp [handOut, pullEnd, Token.isEof, Token.eof, step?, finish]
  rw [steps_of_some step, steps_of_none ended]

/-- With more than blanks left, it gives what is pulled, and goes on after that. -/
theorem steps_of_cons {s : Scanner} (h : s.Consistent) (going : s.finished = false) {c : Char}
    {rest : List Char} (left : s.unread.dropWhile isBlank = c :: rest) :
    s.steps = s.pull :: s.pull.after.steps := by
  have more := isEof_pull_of_cons h left
  have step : s.step? = some s.pull := by simp [step?, going, handOut, more]
  exact steps_of_some step

/-- A stream that has not ended gives the lexemes of what is left, then the end. -/
theorem tokens_steps {s : Scanner} (h : s.Consistent) (going : s.finished = false) :
    s.steps.map Pull.token = lexemes s.unread ++ [Token.eof] := by
  -- by induction on what is left, which every pull of a lexeme shortens
  rcases left : s.unread.dropWhile isBlank with - | ⟨c, rest⟩
  · rw [steps_of_nil h going left, lexemes_of_nil left]
    simp [handOut, pullEnd, Token.isEof, Token.eof]
  · have shorter := length_unread_pull_lt h left
    have later := tokens_steps (consistent_pull h) ((finished_pull h).trans going)
    rw [steps_of_cons h going left, lexemes_of_cons left, List.map_cons, later,
      (reads_pull h left).token_eq, unread_pull_of_cons h left, List.cons_append]
termination_by s.unread.length

end Scanner

/-- A text amounts to its lexemes and the end. -/
theorem tokenize_eq (source : String) :
    tokenize source = lexemes source.toList ++ [Token.eof] := by
  have := Scanner.tokens_steps (Scanner.consistent_ofString source) rfl
  rwa [Scanner.unread_ofString] at this

end ScriptLexer
