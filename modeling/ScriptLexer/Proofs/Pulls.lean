/-
ScriptLexer/Proofs/Pulls.lean

Pulls in a row lose nothing.

One pull moves the cursor over blanks and then over the literal of its token, be the
token the end (`Scanner.passes_pull`), and no literal holds a blank.  So after any
number of pulls the text that the cursor has gone over is what the pulls have given,
but for its blanks (`Scanner.withoutBlanks_passed`).  The same step tells where each
literal stands: right before the cursor as the pull leaves it (`Scanner.stands_pull`).
What was pulled later begins no earlier than where the cursor was, so the places of
the tokens follow one another (`Scanner.pairwise_pullTimes`).

The pulls need not stop at the end of the text: one that gives the end has an empty
literal, and what is said of the others is true of it.
-/
import ScriptLexer.Proofs.Layout

namespace ScriptLexer

/-! ### Blanks taken out -/

/-- The characters that are no part of a token. -/
def blanks : List Char := [' ', '\t', '\n', '\r']

/-- A text without its blanks. -/
def withoutBlanks (text : List Char) : List Char :=
  text.filter fun c => !blanks.contains c

theorem isBlank_eq_contains (c : Char) : isBlank c = blanks.contains c := by
  simp [isBlank, blanks, Bool.or_assoc, Bool.beq_eq_decide_eq]

theorem withoutBlanks_append (front back : List Char) :
    withoutBlanks (front ++ back) = withoutBlanks front ++ withoutBlanks back :=
  List.filter_append ..

theorem withoutBlanks_of_isBlank {gap : List Char} (blank : gap.all isBlank = true) :
    withoutBlanks gap = [] := by
  rw [withoutBlanks, List.filter_eq_nil_iff]
  intro c mem
  rw [← isBlank_eq_contains, List.all_eq_true.mp blank c mem]
  decide

/-- A token has no blanks to take out. -/
theorem withoutBlanks_literal {t : Token} (fits : t.wellFormed = true) :
    withoutBlanks t.literal.toList = t.literal.toList := by
  obtain ⟨c, tail, written⟩ := Token.wellFormed_iff_written.mp fits
  rw [written.literal_eq, withoutBlanks, List.filter_eq_self]
  intro d mem
  rw [← isBlank_eq_contains, written.not_isBlank d mem]
  rfl

/-- Without its blanks, a text is the literals of its tokens. -/
theorem Lexes.withoutBlanks_eq {text : List Char} {tokens : List Token} (h : Lexes text tokens) :
    withoutBlanks text = tokens.flatMap fun t => t.literal.toList := by
  induction h with
  | blank gap => exact withoutBlanks_of_isBlank gap
  | token gap fits _ _ ih =>
    rw [withoutBlanks_append, withoutBlanks_append, withoutBlanks_of_isBlank gap,
      withoutBlanks_literal fits, ih, List.nil_append, List.flatMap_cons]

namespace Scanner

/-! ### One pull -/

section Lexeme

variable {s : Scanner} {c : Char} {rest : List Char}

theorem wellFormed_pull (h : s.Consistent) (left : s.unread.dropWhile isBlank = c :: rest) :
    s.pull.token.wellFormed = true := by
  obtain ⟨⟨tail, written⟩, -⟩ := splitLexeme_sound (not_isBlank_of_dropWhile left) rest
  rw [(reads_pull h left).token_eq]
  exact Token.wellFormed_iff_written.mpr ⟨c, tail, written⟩

/-- What is pulled ends where the text that is left begins. -/
theorem endsBefore_pull (h : s.Consistent) (left : s.unread.dropWhile isBlank = c :: rest) :
    s.pull.token.EndsBefore s.pull.after.unread := by
  rw [(reads_pull h left).token_eq, unread_pull_of_cons h left]
  exact (splitLexeme_sound (not_isBlank_of_dropWhile left) rest).2

end Lexeme

/-- What a pull gives has no blanks. -/
theorem withoutBlanks_pull {s : Scanner} (h : s.Consistent) :
    withoutBlanks s.pull.token.literal.toList = s.pull.token.literal.toList := by
  rcases left : s.unread.dropWhile isBlank with - | ⟨c, rest⟩
  · rw [pull_of_nil h left]
    rfl
  · exact withoutBlanks_literal (wellFormed_pull h left)

end Scanner

/-- The literal of what was pulled is the text right before the cursor. -/
structure Pull.Stands (text : List Char) (p : Pull) : Prop where
  length_le : p.token.literal.length ≤ p.after.position
  extract_eq : text.extract (p.after.position - p.token.literal.length) p.after.position
    = p.token.literal.toList

namespace Scanner

variable {s : Scanner}

/-- The place of a token: from where it begins up to the cursor. -/
theorem position_pull (h : s.Consistent) :
    s.pull.after.position - s.pull.token.literal.length = s.pull.start
      ∧ s.position ≤ s.pull.start
      ∧ s.pull.after.position = s.pull.start + s.pull.token.literal.length := by
  have skipped := (passes_skipBlanks h).position_eq
  have read := (passes_literal h).position_eq
  rw [String.length_toList] at read
  rw [start_pull h]
  omega

theorem stands_pull (h : s.Consistent) : s.pull.Stands s.input.toList := by
  obtain ⟨start, -, position⟩ := position_pull h
  refine ⟨by omega, ?_⟩
  rw [start, start_pull h, ← (passes_skipBlanks h).input_eq]
  exact extract_of_passes (passes_literal h)

/-! ### Pulls in a row -/

/-- Pulls so many times: what is pulled, in order, and the scanner after it. -/
def pullTimes : Nat → Scanner → List Pull × Scanner
  | 0, s => ([], s)
  | n + 1, s =>
    match pullTimes n s.pull.after with
    | (later, last) => (s.pull :: later, last)

theorem length_pullTimes (n : Nat) (s : Scanner) : (pullTimes n s).1.length = n := by
  induction n generalizing s with
  | zero => rfl
  | succ n ih => exact congrArg (· + 1) (ih s.pull.after)

/-- The text that the cursor goes over, without its blanks, is what the pulls give. -/
theorem withoutBlanks_passed (h : s.Consistent) (n : Nat) :
    ∃ passed, s.Passes passed (pullTimes n s).2
      ∧ withoutBlanks passed = (pullTimes n s).1.flatMap fun p => p.token.literal.toList := by
  induction n generalizing s with
  | zero => exact ⟨[], .refl h, rfl⟩
  | succ n ih =>
    obtain ⟨passed, later, given⟩ := ih (consistent_pull h)
    refine ⟨_, (passes_pull h).trans later, ?_⟩
    rw [withoutBlanks_append, withoutBlanks_append, withoutBlanks_of_isBlank List.all_takeWhile,
      List.nil_append, withoutBlanks_pull h, given]
    rfl

/-- Every token stands in the input, and not before where the cursor was at first. -/
theorem stands_pullTimes (h : s.Consistent) (n : Nat) :
    ∀ p ∈ (pullTimes n s).1, p.Stands s.input.toList
      ∧ s.position ≤ p.after.position - p.token.literal.length := by
  induction n generalizing s with
  | zero => exact List.forall_mem_nil _
  | succ n ih =>
    obtain ⟨start, first, position⟩ := position_pull h
    refine List.forall_mem_cons.mpr ⟨⟨stands_pull h, start ▸ first⟩, ?_⟩
    intro p mem
    obtain ⟨stands, behind⟩ := ih (consistent_pull h) p mem
    rw [input_pull h] at stands
    exact ⟨stands, by omega⟩

/-- What is pulled later stands behind what has been pulled. -/
theorem pairwise_pullTimes (h : s.Consistent) (n : Nat) :
    (pullTimes n s).1.Pairwise fun p q =>
      p.after.position ≤ q.after.position - q.token.literal.length := by
  induction n generalizing s with
  | zero => exact .nil
  | succ n ih =>
    have behind := stands_pullTimes (consistent_pull h) n
    exact .cons (fun q mem => (behind q mem).2) (ih (consistent_pull h))

/-- The latest pull leaves the last scanner. -/
theorem after_getLast?_pullTimes (n : Nat) (s : Scanner) :
    ∀ p ∈ (pullTimes n s).1.getLast?, p.after = (pullTimes n s).2 := by
  induction n generalizing s with
  | zero =>
    intro p never
    cases never
  | succ n ih =>
    cases n with
    | zero =>
      intro p mem
      obtain rfl : s.pull = p := Option.some.inj mem
      rfl
    | succ n => exact ih s.pull.after

end Scanner

/-! ### A whole text -/

open Scanner (pullTimes)

/-- The pulls that were made account for a text up to the cursor. -/
structure Accounts (text : List Char) (made : List Pull) (last : Scanner) : Prop where
  /-- What they have given is what the cursor has gone over, without its blanks. -/
  join_eq : String.join (made.map fun p => p.token.literal)
    = String.ofList (withoutBlanks (text.take last.position))
  /-- The cursor is where the latest of them has left it. -/
  last_eq : ∀ p ∈ made.getLast?, p.after = last
  /-- Each literal is the text that ends where its pull has left the cursor. -/
  stands : ∀ p ∈ made, p.Stands text
  /-- No literal begins before the end of one that was given earlier. -/
  ordered : made.Pairwise fun p q =>
    p.after.position ≤ q.after.position - q.token.literal.length

theorem join_eq_ofList (texts : List String) :
    String.join texts = String.ofList (texts.flatMap String.toList) := by
  rw [← String.toList_join, String.ofList_toList]

/-- **Pulls lose nothing.**  However often a scanner of a text is asked for a token,
the literals that it has given are the text up to its cursor without the blanks, each
stands where the cursor went over it, and they stand one behind the other.  All tokens
of a text together are the text without its blanks. -/
theorem pulls_lose_nothing (source : String) :
    (∀ n, (pullTimes n (.ofString source)).1.length = n
        ∧ Accounts source.toList (pullTimes n (.ofString source)).1
            (pullTimes n (.ofString source)).2)
      ∧ String.join ((tokenize source).map Token.literal)
          = String.ofList (withoutBlanks source.toList) := by
  have begun := Scanner.consistent_ofString source
  refine ⟨?_, ?_⟩
  · intro n
    refine ⟨Scanner.length_pullTimes n _, ?_, Scanner.after_getLast?_pullTimes n _, ?_,
      Scanner.pairwise_pullTimes begun n⟩
    · obtain ⟨passed, passes, given⟩ := Scanner.withoutBlanks_passed begun n
      have front := Scanner.extract_of_passes passes
      rw [List.extract_eq_take_drop] at front
      rw [join_eq_ofList, List.flatMap_map, ← given]
      exact congrArg (fun text => String.ofList (withoutBlanks text)) front.symm
    · intro p mem
      exact (Scanner.stands_pullTimes begun n p mem).1
  · rw [tokenize_eq, join_eq_ofList, (lexes_lexemes source.toList).withoutBlanks_eq,
      List.flatMap_map, List.flatMap_append]
    simp [Token.eof]

end ScriptLexer
