/-
ScriptLexer/Proofs/Remainder.lean

The scanner answers like the list of its remaining tokens.

A scanner and a remainder belong together (`Tracks`) when the remainder lists the
lexemes of what the scanner has left to read and both streams have ended or both
have not.  Each request keeps them together and is answered alike
(`simulates_remainder`), so any commands on any pools are.  Two things make the
step: a pull takes the first lexeme of what is left and leaves the others
(`lexemes_unread_pull`), and collecting is asking for the next item until there is
none (`collect_eq`).

With the scanner out of the way, the rest is about lists: pulling gives the tokens
of a text and then the end again and again, the stream gives them and the end
once, and a stream that has ended stays so.
-/
import ScriptLexer.Proofs.Layout
import ScriptLexer.Proofs.Pool
import ScriptLexer.Scanner.Reachable
import ScriptLexer.Scanner.Remainder

namespace ScriptLexer

/-! ### Requests to a scanner, told by its lexemes -/

namespace Scanner

/-- A pull takes the first lexeme of what is left; with none left, it gives the
end and there are none left still. -/
theorem lexemes_unread_pull {s : Scanner} (h : s.Consistent) :
    s.pull.token = (lexemes s.unread).headD .eof
      ∧ lexemes s.pull.after.unread = (lexemes s.unread).tail := by
  rcases left : s.unread.dropWhile isBlank with - | ⟨c, rest⟩
  · -- only blanks are left, and the pull goes past them
    have behind : s.skipBlanks.unread = [] := (unread_skipBlanks h).trans left
    rw [pull_of_nil h left, lexemes_of_nil left]
    refine ⟨rfl, ?_⟩
    show lexemes s.skipBlanks.unread = []
    rw [behind, lexemes_of_nil rfl]
  · rw [lexemes_of_cons left, unread_pull_of_cons h left, (reads_pull h left).token_eq]
    exact ⟨rfl, rfl⟩

/-- A stream that has ended gives nothing, and stays as it is. -/
theorem next_of_finished {s : Scanner} (h : s.finished = true) : s.next = (none, s) := by
  simp [next, step?, h]

theorem nth_of_finished {s : Scanner} (h : s.finished = true) (n : Nat) :
    s.nth n = (none, s) := by
  cases n with
  | zero => exact next_of_finished h
  | succ n => rw [nth, next_of_finished h]

/-- The stream ends when it gives the end. -/
theorem finished_next {s : Scanner} {t : Token} (item : s.next.1 = some t)
    (eof : t.isEof = true) : s.next.2.finished = true := by
  rcases ended : s.finished with - | -
  · have pulled : s.next = (some (handOut s.pull).token, (handOut s.pull).after) := by
      simp [next, step?, ended]
    rw [pulled] at item ⊢
    rcases last : s.pull.token.isEof with - | -
    · obtain rfl : s.pull.token = t := by simpa [handOut, last] using item
      rw [last] at eof
      cases eof
    · simp [handOut, last, finish]
  · rw [next_of_finished ended] at item
    cases item

theorem finished_nth {n : Nat} {s : Scanner} {t : Token} (item : (s.nth n).1 = some t)
    (eof : t.isEof = true) : (s.nth n).2.finished = true := by
  induction n generalizing s with
  | zero => exact finished_next item eof
  | succ n ih =>
    rcases first : s.next with ⟨- | u, after⟩
    · rw [nth, first] at item
      cases item
    · rw [nth, first] at item ⊢
      exact ih item

/-- Collecting is asking for the next item until there is none. -/
theorem collect_eq (s : Scanner) :
    s.collect =
      match s.next with
      | (some t, after) => (t :: after.collect.1, after.collect.2)
      | (none, after) => ([], after) := by
  rcases step : s.step? with - | pulled
  · simp [collect, next, step, steps_of_none step]
  · simp only [collect, next, step, steps_of_some step, List.map_cons]
    -- the last scanner is that of the last step, be it this one or a later one
    rcases later : pulled.after.steps with - | ⟨second, others⟩
    · simp
    · have last := List.getLast?_eq_some_getLast (List.cons_ne_nil second others)
      simp [List.getLast?_cons_cons, last]

theorem collect_of_finished {s : Scanner} (h : s.finished = true) : s.collect = ([], s) := by
  rw [collect_eq, next_of_finished h]

end Scanner

/-! ### Requests to a remainder -/

namespace Remainder

/-- The stream of a text gives all of its tokens. -/
theorem collect_ofString (text : String) : (ofString text).collect.1 = tokenize text := by
  show (tokenize text).dropLast ++ [Token.eof] = tokenize text
  rw [dropLast_tokenize, tokenize_eq]

theorem next_of_ended {r : Remainder} (h : r.ended = true) : r.next = (none, r) := by
  simp [next, h]

theorem next_cons {t : Token} {ts : List Token} (solid : t.isEof = false) :
    next ⟨t :: ts, false⟩ = (some t, ⟨ts, false⟩) := by
  simp [next, pull, solid]

/-- What the stream still gives is given item by item. -/
theorem collect_next {r : Remainder} (solid : ∀ t ∈ r.tokens, t.isEof = false) :
    r.next.1 = r.collect.1.head? ∧ r.next.2.collect.1 = r.collect.1.tail
      ∧ ∀ t ∈ r.next.2.tokens, t.isEof = false := by
  obtain ⟨tokens, ended⟩ := r
  cases ended with
  | true => exact ⟨rfl, rfl, solid⟩
  | false =>
    rcases tokens with - | ⟨t, ts⟩
    · exact ⟨rfl, rfl, solid⟩
    · obtain ⟨first, others⟩ := List.forall_mem_cons.mp solid
      simp [next, pull, collect, first]
      exact others

end Remainder

/-! ### Belonging together -/

/-- The remainder lists what the scanner has left to give. -/
structure Tracks (s : Scanner) (r : Remainder) : Prop where
  consistent : s.Consistent
  tokens_eq : r.tokens = lexemes s.unread
  ended_eq : r.ended = s.finished
  tokens_of_ended : r.ended = true → r.tokens = []

namespace Tracks

variable {s : Scanner} {r : Remainder}

theorem ofString (text : String) : Tracks (.ofString text) (.ofString text) where
  consistent := Scanner.consistent_ofString text
  tokens_eq := by
    rw [Scanner.unread_ofString]
    exact dropLast_tokenize text
  ended_eq := rfl
  tokens_of_ended := by
    intro never
    cases never

theorem pull (h : Tracks s r) : Alike Tracks (s.pull.token, s.pull.after) r.pull := by
  obtain ⟨token, left⟩ := Scanner.lexemes_unread_pull h.consistent
  have consistent := Scanner.consistent_pull h.consistent
  have ended := h.ended_eq.trans (Scanner.finished_pull h.consistent).symm
  rw [← h.tokens_eq] at token left
  obtain ⟨tokens, halted⟩ := r
  rcases tokens with - | ⟨t, ts⟩
  · exact ⟨token, consistent, left.symm, ended, fun _ => rfl⟩
  · refine ⟨token, consistent, left.symm, ended, ?_⟩
    -- a stream that has ended has no token to pull
    intro halted
    cases h.tokens_of_ended halted

theorem not_isEof_of_mem (h : Tracks s r) : ∀ t ∈ r.tokens, t.isEof = false := by
  intro t mem
  rw [h.tokens_eq] at mem
  exact not_isEof_of_mem_lexemes mem

/-- Nothing is left behind the end. -/
theorem tokens_of_isEof (h : Tracks s r) (eof : r.pull.1.isEof = true) : r.pull.2.tokens = [] := by
  have solid := h.not_isEof_of_mem
  obtain ⟨tokens, ended⟩ := r
  rcases tokens with - | ⟨t, ts⟩
  · rfl
  · have first : t.isEof = true := eof
    rw [solid t List.mem_cons_self] at first
    cases first

theorem next (h : Tracks s r) : Alike Tracks s.next r.next := by
  rcases ended : r.ended with - | -
  · have going : s.finished = false := h.ended_eq.symm.trans ended
    obtain ⟨token, pulled⟩ := h.pull
    have nothing := h.tokens_of_isEof
    rw [← token] at nothing
    rcases eof : s.pull.token.isEof with - | -
    · simpa [Scanner.next, Scanner.step?, going, Scanner.handOut, Remainder.next, ended,
        ← token, eof, Alike] using pulled
    · -- the end: both streams end with it
      have last : Tracks s.pull.after.finish { r.pull.2 with ended := true } :=
        ⟨⟨pulled.consistent.readPosition_eq, pulled.consistent.current_eq,
          pulled.consistent.position_le⟩, pulled.tokens_eq, rfl, fun _ => nothing eof⟩
      simpa [Scanner.next, Scanner.step?, going, Scanner.handOut, Remainder.next, ended,
        ← token, eof, Alike] using last
  · have halted : s.finished = true := h.ended_eq.symm.trans ended
    rw [Scanner.next_of_finished halted, Remainder.next_of_ended ended]
    exact ⟨rfl, h⟩

theorem nth (n : Nat) (h : Tracks s r) : Alike Tracks (s.nth n) (r.nth n) := by
  induction n generalizing s r with
  | zero => exact h.next
  | succ n ih =>
    obtain ⟨same, after⟩ := h.next
    -- either both streams give an item, or the search ends in both
    rcases item : s.next with ⟨- | t, s'⟩
    · rcases item' : r.next with ⟨- | t', r'⟩
      · rw [item, item'] at after
        simp only [Scanner.nth, Remainder.nth, item, item']
        exact ⟨rfl, after⟩
      · rw [item, item'] at same
        cases same
    · rcases item' : r.next with ⟨- | t', r'⟩
      · rw [item, item'] at same
        cases same
      · rw [item, item'] at after
        simp only [Scanner.nth, Remainder.nth, item, item']
        exact ih after

theorem collect (h : Tracks s r) : Alike Tracks s.collect r.collect := by
  obtain ⟨tokens, ended⟩ := r
  cases ended with
  | true =>
    obtain rfl : tokens = [] := h.tokens_of_ended rfl
    rw [Scanner.collect_of_finished h.ended_eq.symm]
    exact ⟨rfl, h⟩
  | false =>
    -- by induction on the tokens that are left, one item of the stream at a time
    induction tokens generalizing s with
    | nil =>
      -- only the end is left
      obtain ⟨item, after⟩ := h.next
      rcases found : s.next with ⟨first, s'⟩
      rw [found] at item after
      obtain rfl : first = some .eof := item
      rw [Scanner.collect_eq, found]
      simp only [Scanner.collect_of_finished after.ended_eq.symm]
      exact ⟨rfl, after⟩
    | cons t ts ih =>
      have solid := h.not_isEof_of_mem t List.mem_cons_self
      obtain ⟨item, after⟩ := h.next
      rw [Remainder.next_cons solid] at item after
      rcases found : s.next with ⟨first, s'⟩
      rw [found] at item after
      obtain rfl : first = some t := item
      obtain ⟨others, last⟩ := ih after
      rw [Scanner.collect_eq, found]
      exact ⟨congrArg (t :: ·) others, last⟩

end Tracks

/-- Scanners and remainders answer every request alike. -/
theorem simulates_remainder : Simulates Scanner.tokenSource Remainder.tokenSource Tracks where
  ofString := Tracks.ofString
  pull := Tracks.pull
  next := Tracks.next
  nth := fun n _ _ h => h.nth n
  collect := Tracks.collect

/-! ### One request again and again -/

/-- With the end behind them or not, tokens run out into the end. -/
theorem getD_concat_eof (tokens : List Token) (i : Nat) :
    (tokens ++ [Token.eof])[i]?.getD .eof = tokens[i]?.getD .eof := by
  induction tokens generalizing i with
  | nil => cases i <;> rfl
  | cons t tokens ih =>
    cases i with
    | zero => rfl
    | succ i => exact ih i

namespace Remainder

theorem runAll_pulls (r : Remainder) (n : Nat) :
    Pool.runAll tokenSource [r] (List.replicate n (0, .pull))
      = (List.range n).map fun i => some (.token (r.tokens[i]?.getD .eof)) := by
  induction n generalizing r with
  | zero => rfl
  | succ n ih =>
    -- the first answer is the head of the list, the others are those of its tail
    obtain ⟨tokens, ended⟩ := r
    rw [List.replicate_succ, List.range_succ_eq_map, List.map_cons, List.map_map]
    rcases tokens with - | ⟨t, ts⟩
    · exact congrArg (_ :: ·) (ih ⟨[], ended⟩)
    · exact congrArg (_ :: ·) (ih ⟨ts, ended⟩)

theorem runAll_nexts {r : Remainder} (solid : ∀ t ∈ r.tokens, t.isEof = false) (n : Nat) :
    Pool.runAll tokenSource [r] (List.replicate n (0, .next))
      = (List.range n).map fun i => some (.item r.collect.1[i]?) := by
  induction n generalizing r with
  | zero => rfl
  | succ n ih =>
    obtain ⟨item, others, kept⟩ := collect_next solid
    have later := ih kept
    rw [List.replicate_succ, List.range_succ_eq_map, List.map_cons, List.map_map]
    show some (.item r.next.1) :: Pool.runAll tokenSource [r.next.2] _ = _
    rw [later, item, others, List.head?_eq_getElem?]
    simp [Function.comp_def]

end Remainder

/-! ### What requests keep -/

/-- What a pull keeps and a step of the stream keeps, every request keeps. -/
theorem Keeps.of_step {P : Scanner → Prop} (pull : ∀ {s : Scanner}, P s → P s.pull.after)
    (step : ∀ {s : Scanner} {pulled : Pull}, P s → s.step? = some pulled → P pulled.after) :
    Keeps Scanner.tokenSource P :=
  ⟨pull, Scanner.kept_next step, Scanner.kept_nth step, Scanner.kept_collect step⟩

/-- Members of pools are reachable: a copy of a scanner is that scanner. -/
theorem keeps_reachable :
    Keeps Scanner.tokenSource fun s => ∃ text, Scanner.Reachable text s where
  pull := fun ⟨text, h⟩ => ⟨text, h.pull⟩
  next := fun ⟨text, h⟩ => ⟨text, h.next⟩
  nth := fun n _ ⟨text, h⟩ => ⟨text, h.nth n⟩
  collect := fun ⟨text, h⟩ => ⟨text, h.collect⟩

/-- No request makes a stream begin again. -/
theorem keeps_finished :
    Keeps Scanner.tokenSource fun s => s.Consistent ∧ s.finished = true := by
  apply Keeps.of_step
  · intro s h
    exact ⟨Scanner.consistent_pull h.1, (Scanner.finished_pull h.1).trans h.2⟩
  · intro s pulled h found
    -- a stream that has ended makes no step
    obtain ⟨going, -⟩ := Scanner.step_cases found
    rw [h.2] at going
    cases going

/-- The member whose stream has given the end is a scanner whose stream has ended. -/
theorem exists_finished_of_item {pool after : Pool Scanner} {on : Nat} {command : Command}
    {t : Token} (reached : ∀ s ∈ pool, ∃ text, Scanner.Reachable text s)
    (ran : pool.run? Scanner.tokenSource on command = some (.item (some t), after))
    (eof : t.isEof = true) :
    ∃ s, after[on]? = some s ∧ s.Consistent ∧ s.finished = true := by
  obtain ⟨s, member, replied⟩ := Option.map_eq_some_iff.mp ran
  obtain ⟨text, reached⟩ := reached s (List.mem_of_getElem? member)
  obtain ⟨item, rfl⟩ := Prod.mk.inj replied
  have inside := (List.getElem?_eq_some_iff.mp member).1
  cases command with
  | next =>
    exact ⟨s.next.2, List.getElem?_set_self inside, reached.next.sound.consistent,
      Scanner.finished_next (Answer.item.inj item) eof⟩
  | nth n =>
    exact ⟨(s.nth n).2, List.getElem?_set_self inside, (reached.nth n).sound.consistent,
      Scanner.finished_nth (Answer.item.inj item) eof⟩
  | pull | collect | copy | start => cases item

/-- **The scanner answers like the list of its tokens**, to any commands, in any
order, on any of a growing number of scanners.  So pulling gives the tokens of the
text, and the end from then on; the stream gives the same tokens, the end last, and
then nothing; and a stream that has given the end once gives nothing more, whatever
is asked of it or of other scanners in between. -/
theorem scanner_answers_like_remainder (source : String) :
    (∀ commands, Pool.runAll Scanner.tokenSource [.ofString source] commands
        = Pool.runAll Remainder.tokenSource [.ofString source] commands)
      ∧ (∀ n, Pool.runAll Scanner.tokenSource [.ofString source] (List.replicate n (0, .pull))
          = (List.range n).map fun i => some (.token ((tokenize source)[i]?.getD .eof)))
      ∧ (∀ n, Pool.runAll Scanner.tokenSource [.ofString source] (List.replicate n (0, .next))
          = (List.range n).map fun i => some (.item (tokenize source)[i]?))
      ∧ ∀ before on command t pool,
          Pool.run? Scanner.tokenSource
              (Pool.after Scanner.tokenSource [.ofString source] before) on command
            = some (.item (some t), pool) →
          t.isEof = true →
          ∀ later, ∃ s, (Pool.after Scanner.tokenSource pool later)[on]? = some s
            ∧ s.next = (none, s) := by
  have alike (commands : List (Nat × Command)) :
      Pool.runAll Scanner.tokenSource [.ofString source] commands
        = Pool.runAll Remainder.tokenSource [.ofString source] commands :=
    simulates_remainder.runAll_eq (.cons (.ofString source) .nil) commands
  refine ⟨alike, ?_, ?_, ?_⟩
  · intro n
    rw [alike, Remainder.runAll_pulls]
    refine List.map_congr_left fun i _ => ?_
    rw [← Remainder.collect_ofString]
    exact congrArg (fun t => some (Answer.token t)) (getD_concat_eof _ i).symm
  · intro n
    have solid := (Tracks.ofString source).not_isEof_of_mem
    rw [alike, Remainder.runAll_nexts solid, Remainder.collect_ofString]
  · intro before on command t pool ran eof later
    have started : ∀ s ∈ [Scanner.ofString source], ∃ text, Scanner.Reachable text s := by
      intro s mem
      obtain rfl := List.mem_singleton.mp mem
      exact ⟨source, .start⟩
    -- all members are reachable, so the one that was asked has ended, and stays so
    have reached := keeps_reachable.forall_after (fun text => ⟨text, .start⟩) started before
    have halted := exists_finished_of_item reached ran eof
    obtain ⟨s, member, -, still⟩ := keeps_finished.exists_after halted later
    exact ⟨s, member, Scanner.next_of_finished still⟩

/-- A scanner is copied after its first token.  The copy is pulled, the scanner goes on to the
end, and however the copy goes on then, the stream of the scanner has ended. -/
theorem scanner_answers_like_remainder_of_copy :
    let before : List (Nat × Command) := [(0, .next), (0, .copy), (1, .pull), (0, .nth 1)]
    let later : List (Nat × Command) := [(1, .next), (0, .pull), (1, .collect)]
    Pool.runAll Scanner.tokenSource [.ofString "a == 1"] (before ++ (0, .next) :: later)
        = [some (.item (some ⟨.ident, "a"⟩)), some (.number 1),
            some (.token ⟨.symbol .equal, "=="⟩), some (.item (some ⟨.int, "1"⟩)),
            some (.item (some .eof)), some (.item (some ⟨.int, "1"⟩)), some (.token .eof),
            some (.tokens [.eof])]
      ∧ ∃ pool, Pool.run? Scanner.tokenSource
            (Pool.after Scanner.tokenSource [.ofString "a == 1"] before) 0 .next
          = some (.item (some .eof), pool)
        ∧ ∃ s, (Pool.after Scanner.tokenSource pool later)[0]? = some s ∧ s.next = (none, s) := by
  intro before later
  obtain ⟨alike, -, -, still⟩ := scanner_answers_like_remainder "a == 1"
  refine ⟨?_, Pool.after Scanner.tokenSource [.ofString "a == 1"] (before ++ [(0, .next)]), ?_⟩
  · rw [alike]
    decide +kernel
  · have ran : Pool.run? Scanner.tokenSource
          (Pool.after Scanner.tokenSource [.ofString "a == 1"] before) 0 .next
        = some (.item (some .eof),
            Pool.after Scanner.tokenSource [.ofString "a == 1"] (before ++ [(0, .next)])) := by
      decide +kernel
    exact ⟨ran, still before 0 .next .eof _ ran rfl later⟩

end ScriptLexer
