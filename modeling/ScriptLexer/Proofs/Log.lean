/-
ScriptLexer/Proofs/Log.lean

The log of a text accounts for its tokens, and for the places of the illegal ones.

The scanner reports at two moments: an illegal character while the cursor is still
on it, a token when the cursor is behind it.  Told by what is pulled, both come to
one rule: a token is reported for the place where it begins
(`Scanner.events_pull`).  The places themselves can be had from the text alone, by
counting characters (`foreignPlaces`), and a pull divides them: those in the token
that it reads, and those behind it (`Scanner.foreignPlaces_unread`).  So along a
whole stream the log is that of the tokens, and the illegal ones among them stand
where the foreign characters stand (`Scanner.placedSteps_reported`).
-/
import ScriptLexer.Proofs.Concatenation
import ScriptLexer.Proofs.Foreign
import ScriptLexer.Proofs.Pulls

namespace ScriptLexer

/-! ### Records -/

/-- The log of a text: the level and the message of each event. -/
def logOf (source : String) : List (String × String) :=
  (eventsOf source).map fun event => (event.level.name, event.message)

/-- A token of a text, and where it begins. -/
structure Placed where
  /-- The token. -/
  token : Token
  /-- The number of characters before it. -/
  offset : Nat
  deriving DecidableEq, Repr

namespace Placed

/-- What is reported of a token: first, if it is illegal, its character. -/
def events (placed : Placed) : List Event :=
  (if placed.token.isIllegal then
      placed.token.literal.toList.map fun c => .illegal c placed.offset
    else []) ++ [.token placed.token]

/-- What is logged of a token. -/
def records (placed : Placed) : List (String × String) :=
  (if placed.token.isIllegal then
      placed.token.literal.toList.map fun c =>
        ("DEBUG", "illegal character " ++ quotedChar c ++ " at offset " ++ toString placed.offset)
    else [])
    ++ [("TRACE", placed.token.kind.name ++ " " ++ quotedText placed.token.literal)]

theorem records_eq (placed : Placed) :
    placed.records = placed.events.map fun event => (event.level.name, event.message) := by
  simp only [records, events, List.map_append, List.map_cons, List.map_nil]
  rcases bad : placed.token.isIllegal with - | -
  · rfl
  · simp only [if_true, List.map_map]
    rfl

end Placed

/-! ### Places -/

/-- The characters of a text outside the alphabet, each with its offset, when the
text itself begins at an offset. -/
def foreignPlaces (start : Nat) (text : List Char) : List (Char × Nat) :=
  (text.zipIdx start).filter fun place => !alphabet.contains place.1

theorem foreignPlaces_append (start : Nat) (front back : List Char) :
    foreignPlaces start (front ++ back)
      = foreignPlaces start front ++ foreignPlaces (start + front.length) back := by
  rw [foreignPlaces, List.zipIdx_append, List.filter_append]
  rfl

theorem foreignPlaces_of_native (start : Nat) {text : List Char}
    (native : ∀ c ∈ text, c ∈ alphabet) : foreignPlaces start text = [] := by
  rw [foreignPlaces, List.filter_eq_nil_iff]
  intro place mem
  have inside := native place.1 (List.fst_mem_of_mem_zipIdx mem)
  simp [inside]

theorem foreignPlaces_literal (start : Nat) {t : Token} (fits : t.wellFormed = true) :
    foreignPlaces start t.literal.toList
      = if t.isIllegal then t.literal.toList.map fun c => (c, start) else [] := by
  rcases bad : t.isIllegal with - | -
  · exact foreignPlaces_of_native start (Token.mem_alphabet_of_not_isIllegal fits bad)
  · obtain ⟨c, literal, outside⟩ := Token.exists_char_of_isIllegal fits bad
    simp [literal, foreignPlaces, outside]

theorem map_fst_foreignPlaces (start : Nat) (text : List Char) :
    (foreignPlaces start text).map Prod.fst = foreignChars text := by
  have whole := List.zipIdx_map_fst start text
  rw [foreignChars, ← whole, List.filter_map, whole]
  rfl

/-- At each of the offsets stands the character that it is listed with. -/
theorem getElem?_foreignPlaces (text : List Char) :
    (foreignPlaces 0 text).map (fun place => text[place.2]?) = (foreignChars text).map some := by
  rw [← map_fst_foreignPlaces 0, List.map_map]
  apply List.map_congr_left
  intro place mem
  obtain ⟨listed, -⟩ := List.mem_filter.mp mem
  exact List.mem_zipIdx_iff_getElem?.mp listed

theorem pairwise_foreignPlaces (start : Nat) (text : List Char) :
    (foreignPlaces start text).Pairwise fun first second => first.2 < second.2 := by
  apply List.Pairwise.filter
  apply List.pairwise_map.mp
  rw [List.zipIdx_map_snd]
  exact List.pairwise_lt_range'

/-! ### One pull -/

namespace Scanner

/-- The token that a pull reads, with its place. -/
def placedPull (s : Scanner) : Placed :=
  ⟨s.pull.token, s.skipBlanks.position⟩

section Lexeme

variable {s : Scanner} {c : Char} {rest : List Char}

/-- A pull reports its token at the place where the token begins. -/
theorem events_pull (h : s.Consistent) (left : s.unread.dropWhile isBlank = c :: rest) :
    s.pull.events = s.placedPull.events := by
  have read := reads_pull h left
  rw [read.events_eq, Placed.events, placedPull, ← read.token_eq]
  rcases bad : s.pull.token.isIllegal with - | -
  · rfl
  · -- the character under the cursor is the whole of the token
    obtain ⟨d, literal, -⟩ := Token.exists_char_of_isIllegal (wellFormed_pull h left) bad
    have same := read.passes.unread_eq
    rw [← read.token_eq, literal, unread_skipBlanks h, left] at same
    obtain rfl : c = d := by simpa using congrArg List.head? same
    simp only [if_true, literal, String.toList_singleton]
    rfl

/-- The foreign characters of what is left are those of the token that is read, and
those that are left behind it. -/
theorem foreignPlaces_unread (h : s.Consistent) (left : s.unread.dropWhile isBlank = c :: rest) :
    foreignPlaces s.position s.unread
      = foreignPlaces s.placedPull.offset s.pull.token.literal.toList
        ++ foreignPlaces s.pull.after.position s.pull.after.unread := by
  have blanks := passes_skipBlanks h
  have token := (reads_pull h left).passes
  rw [← (reads_pull h left).token_eq] at token
  have native : ∀ d ∈ s.unread.takeWhile isBlank, d ∈ alphabet :=
    mem_alphabet_of_all_isBlank List.all_takeWhile
  rw [blanks.unread_eq, foreignPlaces_append, foreignPlaces_of_native s.position native,
    List.nil_append, ← blanks.position_eq, token.unread_eq, foreignPlaces_append,
    ← token.position_eq]
  rfl

end Lexeme

/-! ### A whole run -/

/-- The tokens that are left of a stream, all but the end, at their places. -/
def placedSteps (s : Scanner) : List Placed :=
  (s.steps.filter fun p => !p.token.isEof).map fun p => ⟨p.token, p.start⟩

theorem placedSteps_of_nil {s : Scanner} (h : s.Consistent) (going : s.finished = false)
    (left : s.unread.dropWhile isBlank = []) : s.placedSteps = [] := by
  rw [placedSteps, steps_of_nil h going left]
  rfl

theorem placedSteps_of_cons {s : Scanner} {c : Char} {rest : List Char} (h : s.Consistent)
    (going : s.finished = false) (left : s.unread.dropWhile isBlank = c :: rest) :
    s.placedSteps = s.placedPull :: s.pull.after.placedSteps := by
  have more := isEof_pull_of_cons h left
  rw [placedSteps, steps_of_cons h going left, List.filter_cons_of_pos (by simp [more]),
    List.map_cons, start_pull h]
  rfl

/-- What the rest of a stream reports: its tokens at their places. -/
theorem placedSteps_reported {s : Scanner} (h : s.Consistent) (going : s.finished = false) :
    s.placedSteps.map Placed.token = lexemes s.unread
      ∧ s.steps.flatMap Pull.events = s.placedSteps.flatMap Placed.events
      ∧ (s.placedSteps.filter fun p => p.token.isIllegal).map (fun p => (p.token.literal, p.offset))
          = (foreignPlaces s.position s.unread).map
              fun place => (String.singleton place.1, place.2) := by
  -- by induction on what is left, which every pull of a lexeme shortens
  rcases left : s.unread.dropWhile isBlank with - | ⟨c, rest⟩
  · have native : ∀ d ∈ s.unread, d ∈ alphabet :=
      mem_alphabet_of_all_isBlank (lexemes_eq_nil_iff.mp (lexemes_of_nil left))
    rw [placedSteps_of_nil h going left]
    refine ⟨?_, ?_, ?_⟩
    · rw [lexemes_of_nil left]
      rfl
    · rw [steps_of_nil h going left]
      rfl
    · rw [foreignPlaces_of_native s.position native]
      rfl
  · have shorter := length_unread_pull_lt h left
    have fits := wellFormed_pull h left
    obtain ⟨tokens, events, places⟩ :=
      placedSteps_reported (consistent_pull h) ((finished_pull h).trans going)
    rw [placedSteps_of_cons h going left]
    refine ⟨?_, ?_, ?_⟩
    · rw [lexemes_of_cons left, ← unread_pull_of_cons h left, ← (reads_pull h left).token_eq,
        List.map_cons, tokens]
      rfl
    · rw [steps_of_cons h going left, List.flatMap_cons, List.flatMap_cons, events,
        events_pull h left]
    · rw [foreignPlaces_unread h left, List.map_append, ← places, foreignPlaces_literal _ fits]
      rcases bad : s.pull.token.isIllegal with - | -
      · rw [List.filter_cons_of_neg (by simp [placedPull, bad])]
        rfl
      · obtain ⟨d, literal, -⟩ := Token.exists_char_of_isIllegal fits bad
        rw [List.filter_cons_of_pos (by simp [placedPull, bad]), List.map_cons]
        simp [placedPull, literal]
termination_by s.unread.length

end Scanner

/-! ### A whole text -/

/-- The tokens of a text, all but the end, each at its place. -/
def placedTokens (source : String) : List Placed :=
  (Scanner.ofString source).placedSteps

section Text

variable (source : String)

theorem map_token_placedTokens :
    (placedTokens source).map Placed.token = lexemes source.toList := by
  have reported := Scanner.placedSteps_reported (Scanner.consistent_ofString source) rfl
  rw [Scanner.unread_ofString] at reported
  exact reported.1

theorem eventsOf_eq_flatMap : eventsOf source = (placedTokens source).flatMap Placed.events :=
  (Scanner.placedSteps_reported (Scanner.consistent_ofString source) rfl).2.1

/-- The illegal tokens of a text are its foreign characters, where these stand. -/
theorem illegal_placedTokens :
    ((placedTokens source).filter fun p => p.token.isIllegal).map
        (fun p => (p.token.literal, p.offset))
      = (foreignPlaces 0 source.toList).map fun place => (String.singleton place.1, place.2) := by
  have reported := Scanner.placedSteps_reported (Scanner.consistent_ofString source) rfl
  rw [Scanner.unread_ofString] at reported
  exact reported.2.2

end Text

/-- **The log accounts for the tokens**, all but the end, in their order: an illegal
one is announced and traced, every other one is traced.  What is announced is where
the characters outside the alphabet stand, one after the other. -/
theorem logOf_accounts_for_tokens (source : String) :
    (placedTokens source).map Placed.token = (tokenize source).filter (fun t => !t.isEof)
      ∧ logOf source = (placedTokens source).flatMap Placed.records
      ∧ ((placedTokens source).filter fun p => p.token.isIllegal).map
            (fun p => (p.token.literal, p.offset))
          = (foreignPlaces 0 source.toList).map (fun place => (String.singleton place.1, place.2))
      ∧ (foreignPlaces 0 source.toList).map (fun place => source.toList[place.2]?)
          = (foreignChars source.toList).map some
      ∧ (foreignPlaces 0 source.toList).Pairwise fun first second => first.2 < second.2 := by
  refine ⟨?_, ?_, illegal_placedTokens source, getElem?_foreignPlaces _,
    pairwise_foreignPlaces 0 _⟩
  · rw [map_token_placedTokens, tokenize_eq, List.filter_append,
      List.filter_eq_self.mpr (forall_not_isEof_lexemes _)]
    simp [Token.isEof, Token.eof]
  · rw [logOf, eventsOf_eq_flatMap, List.map_flatMap, ← funext Placed.records_eq]

end ScriptLexer
