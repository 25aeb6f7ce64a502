/-
ScriptLexer/Proofs/Lexeme.lean

What cutting off a lexeme gives, and when.

`splitLexeme` is settled by two facts about the token that it gives: the token is
well formed, and it ends where the rest begins, that is, it would not absorb the
next character (`splitLexeme_sound`).  They determine it: a text that begins with
the literal of a well-formed token which ends there is cut after that literal
(`splitLexeme_of_written`).  So the token at the beginning of a text can be found
without scanning, and the laws of whole texts (`lexemes`) need nothing else about
the scan:

* blanks in front make no difference (`lexemes_append_of_isBlank`);
* a well-formed token that ends before a text is the first of its lexemes
  (`lexemes_append_of_wellFormed`).
-/
import ScriptLexer.Lexeme
import ScriptLexer.Proofs.Alphabet

namespace ScriptLexer

/-! ### Where a token ends -/

/-- The token is not changed by a text right behind it. -/
def Token.EndsBefore (t : Token) (text : List Char) : Prop :=
  text.head?.any t.absorbs = false

namespace Token

theorem endsBefore_nil (t : Token) : t.EndsBefore [] := rfl

theorem endsBefore_cons {t : Token} {c : Char} {rest : List Char} :
    t.EndsBefore (c :: rest) ↔ t.absorbs c = false := Iff.rfl

/-- Only the first character behind a token matters. -/
theorem endsBefore_append {t : Token} {text : List Char} (h : text ≠ []) (more : List Char) :
    t.EndsBefore (text ++ more) ↔ t.EndsBefore text := by
  obtain ⟨c, rest, rfl⟩ := List.exists_cons_of_ne_nil h
  exact Iff.rfl

/-- Every token ends before a blank. -/
theorem endsBefore_of_isBlank {t : Token} {text : List Char} (blank : text.all isBlank = true) :
    t.EndsBefore text := by
  rcases text with - | ⟨c, rest⟩
  · exact endsBefore_nil t
  · rw [endsBefore_cons]
    obtain ⟨first, -⟩ : isBlank c = true ∧ rest.all isBlank = true := by
      simpa only [List.all_cons, Bool.and_eq_true] using blank
    rcases absorbed : t.absorbs c with - | -
    · rfl
    · rw [not_isBlank_of_absorbs absorbed] at first
      cases first

/-- Two tokens merge when the first does not end before the second. -/
theorem endsBefore_literal_iff {t u : Token} :
    t.EndsBefore u.literal.toList ↔ t.merges u = false := Iff.rfl

end Token

/-- A run stops where the next character fails its test. -/
theorem takeWhile_append_of_stops {test : Char → Bool} {run rest : List Char}
    (passes : run.all test = true) (stops : rest.head?.any test = false) :
    (run ++ rest).takeWhile test = run ∧ (run ++ rest).dropWhile test = rest := by
  rw [List.all_eq_true] at passes
  rw [List.takeWhile_append_of_pos passes, List.dropWhile_append_of_pos passes]
  rcases rest with - | ⟨c, rest⟩
  · exact ⟨List.append_nil run, rfl⟩
  · have fails : test c = false := stops
    rw [List.takeWhile_cons_of_neg (by simp [fails]), List.dropWhile_cons_of_neg (by simp [fails]),
      List.append_nil]
    exact ⟨rfl, rfl⟩

/-- Runs can be told from what stands behind them, if they stop there. -/
theorem append_inj_of_stops {test : Char → Bool} {run other rest more : List Char}
    (passes : run.all test = true) (stops : rest.head?.any test = false)
    (passes' : other.all test = true) (stops' : more.head?.any test = false)
    (same : run ++ rest = other ++ more) : run = other ∧ rest = more := by
  obtain ⟨taken, dropped⟩ := takeWhile_append_of_stops passes stops
  obtain ⟨taken', dropped'⟩ := takeWhile_append_of_stops passes' stops'
  rw [same, taken'] at taken
  rw [same, dropped'] at dropped
  exact ⟨taken.symm, dropped.symm⟩

theorem head?_dropWhile_any (test : Char → Bool) (text : List Char) :
    (text.dropWhile test).head?.any test = false := by
  have fails := List.head?_dropWhile_not test text
  rcases left : (text.dropWhile test).head? with - | c
  · rfl
  · rw [left] at fails
    simpa using fails

/-- Behind the blanks in front of a text, there is no blank. -/
theorem not_isBlank_of_dropWhile {text rest : List Char} {c : Char}
    (left : text.dropWhile isBlank = c :: rest) : isBlank c = false := by
  have stops := head?_dropWhile_any isBlank text
  rwa [left] at stops

/-! ### The four ways of cutting -/

section Cutting

variable {c : Char} {rest : List Char}

theorem splitLexeme_pair {symbol : Symbol} (h : Symbol.withEquals? c = some symbol) :
    splitLexeme c ('=' :: rest) = (⟨.symbol symbol, String.ofList [c, '=']⟩, rest) := by
  have pair : Symbol.ofPair? c ('=' :: rest).head? = some symbol := by
    simp [Symbol.ofPair?, h]
  simp only [splitLexeme, pair, List.tail_cons]

theorem splitLexeme_symbol {symbol : Symbol} (single : Symbol.ofChar? c = some symbol)
    (alone : Symbol.ofPair? c rest.head? = none) :
    splitLexeme c rest = (⟨.symbol symbol, String.singleton c⟩, rest) := by
  simp only [splitLexeme, alone, single]

theorem splitLexeme_word {tail : List Char} (letter : isLetter c = true)
    (word : tail.all isWordChar = true) (stops : rest.head?.any isWordChar = false) :
    splitLexeme c (tail ++ rest)
      = (⟨.ofWord (String.ofList (c :: tail)), String.ofList (c :: tail)⟩, rest) := by
  have single := ofChar?_eq_none_of_isWordChar (isWordChar_of_isLetter letter)
  have pair := ofPair?_eq_none (withEquals?_eq_none single) (tail ++ rest).head?
  obtain ⟨taken, dropped⟩ := takeWhile_append_of_stops word stops
  simp only [splitLexeme, pair, single, letter, if_true, taken, dropped]

theorem splitLexeme_number {tail : List Char} (digit : isDigit c = true)
    (number : tail.all isDigit = true) (stops : rest.head?.any isDigit = false) :
    splitLexeme c (tail ++ rest) = (⟨.int, String.ofList (c :: tail)⟩, rest) := by
  have single := ofChar?_eq_none_of_isWordChar (isWordChar_of_isDigit digit)
  have pair := ofPair?_eq_none (withEquals?_eq_none single) (tail ++ rest).head?
  have letter := not_isLetter_of_isDigit digit
  obtain ⟨taken, dropped⟩ := takeWhile_append_of_stops number stops
  simp only [splitLexeme, pair, single, letter, digit, if_true, taken, dropped,
    Bool.false_eq_true, if_false]

theorem splitLexeme_foreign (foreign : inAlphabet c = false) :
    splitLexeme c rest = (⟨.illegal, String.singleton c⟩, rest) := by
  simp only [inAlphabet, isSymbolChar, Bool.or_eq_false_iff, Option.isSome_eq_false_iff,
    Option.isNone_iff_eq_none] at foreign
  obtain ⟨⟨⟨-, letter⟩, digit⟩, single⟩ := foreign
  have pair := ofPair?_eq_none (withEquals?_eq_none single) rest.head?
  simp only [splitLexeme, pair, single, letter, digit, Bool.false_eq_true, if_false]

end Cutting

/-! ### Symbols and their spellings -/

namespace Symbol

theorem spelling_of_ofChar? {c : Char} {symbol : Symbol} (h : ofChar? c = some symbol) :
    symbol.spelling = String.singleton c := by
  unfold ofChar? at h
  split at h <;> cases h <;> rfl

theorem spelling_of_withEquals? {c : Char} {symbol : Symbol} (h : withEquals? c = some symbol) :
    symbol.spelling = String.ofList [c, '='] := by
  unfold withEquals? at h
  split at h <;> cases h <;> rfl

/-- A symbol is written with one character, or with one and an `=`. -/
theorem exists_ofChar?_or_withEquals? (symbol : Symbol) :
    ∃ c, ofChar? c = some symbol ∨ withEquals? c = some symbol := by
  refine ⟨symbol.spelling.toList.headD ' ', ?_⟩
  cases symbol <;> decide

end Symbol

/-- A symbol of one character absorbs an `=` if the two make another symbol. -/
theorem absorbs_of_ofChar? {c : Char} {symbol : Symbol} (h : Symbol.ofChar? c = some symbol)
    (literal : String) (d : Char) :
    Token.absorbs ⟨.symbol symbol, literal⟩ d = (d == '=' && (Symbol.withEquals? c).isSome) := by
  unfold Symbol.ofChar? at h
  split at h <;> cases h <;> simp [Token.absorbs, Symbol.withEquals?]

theorem absorbs_of_withEquals? {c : Char} {symbol : Symbol}
    (h : Symbol.withEquals? c = some symbol) (literal : String) (d : Char) :
    Token.absorbs ⟨.symbol symbol, literal⟩ d = false := by
  unfold Symbol.withEquals? at h
  split at h <;> cases h <;> rfl

/-- A symbol of one character is cut off alone exactly when it ends before the rest. -/
theorem ofPair?_eq_none_iff_endsBefore {c : Char} {rest : List Char} {symbol : Symbol}
    (single : Symbol.ofChar? c = some symbol) (literal : String) :
    Symbol.ofPair? c rest.head? = none ↔ Token.EndsBefore ⟨.symbol symbol, literal⟩ rest := by
  rcases rest with - | ⟨d, rest⟩
  · exact ⟨fun _ => rfl, fun _ => rfl⟩
  · rw [Token.endsBefore_cons, absorbs_of_ofChar? single literal, List.head?_cons, Symbol.ofPair?]
    by_cases equals : d = '='
    · simp [equals]
    · simp [equals]

/-! ### Words and their kinds -/

theorem isWord_iff {word : String} : isWord word = true ↔
    ∃ c tail, word = String.ofList (c :: tail) ∧ isLetter c = true
      ∧ tail.all isWordChar = true := by
  unfold isWord
  constructor
  · intro h
    split at h
    next c tail letters =>
      rw [Bool.and_eq_true] at h
      exact ⟨c, tail, by rw [← letters, String.ofList_toList], h.1, h.2⟩
    next => cases h
  · rintro ⟨c, tail, rfl, letter, rest⟩
    simp only [String.toList_ofList, letter, rest, Bool.and_self]

theorem isNumber_iff {number : String} : isNumber number = true ↔
    ∃ c tail, number = String.ofList (c :: tail) ∧ isDigit c = true
      ∧ tail.all isDigit = true := by
  unfold isNumber
  constructor
  · intro h
    rcases digits : number.toList with - | ⟨c, tail⟩
    · rw [digits] at h
      cases h
    · rw [digits] at h
      simp only [ne_eq, reduceCtorEq, not_false_eq_true, decide_true, Bool.true_and,
        List.all_cons, Bool.and_eq_true] at h
      exact ⟨c, tail, by rw [← digits, String.ofList_toList], h.1, h.2⟩
  · rintro ⟨c, tail, rfl, digit, rest⟩
    rw [String.toList_ofList, List.all_cons, digit, rest]
    rfl

theorem isForeign_iff {text : String} : isForeign text = true ↔
    ∃ c, text = String.singleton c ∧ inAlphabet c = false := by
  unfold isForeign
  constructor
  · intro h
    split at h
    next c only =>
      refine ⟨c, ?_, by simpa using h⟩
      rw [← String.ofList_toList (s := text), only]
      rfl
    next => cases h
  · rintro ⟨c, rfl, foreign⟩
    simp [foreign]

theorem isWord_spelling (k : Keyword) : isWord k.spelling = true := by
  cases k <;> decide

theorem ofWord_spelling (k : Keyword) : Kind.ofWord k.spelling = .keyword k := by
  rw [Kind.ofWord, Keyword.ofWord?_eq_some_iff.mpr rfl]

theorem ofWord_ne_int (word : String) : Kind.ofWord word ≠ .int := by
  unfold Kind.ofWord
  split <;> exact Kind.noConfusion

/-- Words are well-formed tokens under the kind of the word. -/
theorem wellFormed_ofWord {word : String} (h : isWord word = true) :
    Token.wellFormed ⟨.ofWord word, word⟩ = true := by
  unfold Kind.ofWord
  rcases reserved : Keyword.ofWord? word with - | k
  · simp [Token.wellFormed, h, reserved]
  · simp [Token.wellFormed, Keyword.ofWord?_eq_some_iff.mp reserved]

theorem absorbs_ofWord (word literal : String) (d : Char) :
    Token.absorbs ⟨.ofWord word, literal⟩ d = isWordChar d := by
  unfold Kind.ofWord
  split <;> rfl

/-! ### How a token is written -/

/-- `Written c tail t`: the token `t` is well formed, and its literal is `c` and
then `tail`.  There is one case for each way of cutting off a lexeme. -/
inductive Token.Written : Char → List Char → Token → Prop
  | word {c tail} : isLetter c = true → tail.all isWordChar = true →
      Written c tail ⟨.ofWord (String.ofList (c :: tail)), String.ofList (c :: tail)⟩
  | number {c tail} : isDigit c = true → tail.all isDigit = true →
      Written c tail ⟨.int, String.ofList (c :: tail)⟩
  | symbol {c s} : Symbol.ofChar? c = some s →
      Written c [] ⟨.symbol s, String.singleton c⟩
  | pair {c s} : Symbol.withEquals? c = some s →
      Written c ['='] ⟨.symbol s, String.ofList [c, '=']⟩
  | foreign {c} : inAlphabet c = false →
      Written c [] ⟨.illegal, String.singleton c⟩

namespace Token

theorem Written.literal_eq {c : Char} {tail : List Char} {t : Token} (h : Written c tail t) :
    t.literal.toList = c :: tail := by
  cases h <;> simp

/-- The well-formed tokens are those that can be written. -/
theorem wellFormed_iff_written {t : Token} :
    t.wellFormed = true ↔ ∃ c tail, Written c tail t := by
  constructor
  · intro h
    obtain ⟨kind, literal⟩ := t
    cases kind with
    | illegal =>
      obtain ⟨c, rfl, foreign⟩ := isForeign_iff.mp h
      exact ⟨c, [], .foreign foreign⟩
    | eof => cases h
    | ident =>
      simp only [wellFormed, Bool.and_eq_true, Option.isNone_iff_eq_none] at h
      obtain ⟨word, free⟩ := h
      obtain ⟨c, tail, rfl, letter, rest⟩ := isWord_iff.mp word
      have kind : Kind.ofWord (String.ofList (c :: tail)) = .ident := by
        rw [Kind.ofWord, free]
      exact ⟨c, tail, kind ▸ .word letter rest⟩
    | int =>
      obtain ⟨c, tail, rfl, digit, rest⟩ := isNumber_iff.mp h
      exact ⟨c, tail, .number digit rest⟩
    | symbol s =>
      obtain rfl : literal = s.spelling := by simpa [wellFormed] using h
      obtain ⟨c, single | two⟩ := s.exists_ofChar?_or_withEquals?
      · exact ⟨c, [], Symbol.spelling_of_ofChar? single ▸ .symbol single⟩
      · exact ⟨c, ['='], Symbol.spelling_of_withEquals? two ▸ .pair two⟩
    | keyword k =>
      obtain rfl : literal = k.spelling := by simpa [wellFormed] using h
      obtain ⟨c, tail, same, letter, rest⟩ := isWord_iff.mp (isWord_spelling k)
      have kind := ofWord_spelling k
      rw [same] at kind ⊢
      exact ⟨c, tail, kind ▸ .word letter rest⟩
  · rintro ⟨c, tail, written⟩
    cases written with
    | word letter rest => exact wellFormed_ofWord (isWord_iff.mpr ⟨c, tail, rfl, letter, rest⟩)
    | number digit rest => exact isNumber_iff.mpr ⟨c, tail, rfl, digit, rest⟩
    | symbol single => simp [wellFormed, Symbol.spelling_of_ofChar? single]
    | pair two => simp [wellFormed, Symbol.spelling_of_withEquals? two]
    | foreign foreign => exact isForeign_iff.mpr ⟨c, rfl, foreign⟩

/-- The end is not well formed. -/
theorem not_isEof_of_wellFormed {t : Token} (h : t.wellFormed = true) : t.isEof = false := by
  rcases eof : t.isEof with - | -
  · rfl
  · rw [isEof_iff] at eof
    rw [wellFormed, eof] at h
    cases h

end Token

/-! ### What is cut off -/

/-- The token at the beginning of a text is well formed, and ends there. -/
theorem splitLexeme_sound {c : Char} (h : isBlank c = false) (rest : List Char) :
    (∃ tail, (splitLexeme c rest).1.Written c tail)
      ∧ (splitLexeme c rest).1.EndsBefore (splitLexeme c rest).2 := by
  rcases pair : Symbol.ofPair? c rest.head? with - | symbol
  · rcases single : Symbol.ofChar? c with - | symbol
    · by_cases letter : isLetter c = true
      · -- a word, as long as it goes
        have word := List.all_takeWhile (p := isWordChar) (l := rest)
        have cut := splitLexeme_word letter word (head?_dropWhile_any isWordChar rest)
        rw [List.takeWhile_append_dropWhile] at cut
        rw [cut]
        refine ⟨⟨_, .word letter word⟩, ?_⟩
        rw [Token.EndsBefore, funext (absorbs_ofWord _ _)]
        exact head?_dropWhile_any isWordChar rest
      · rw [Bool.not_eq_true] at letter
        by_cases digit : isDigit c = true
        · -- a number, as long as it goes
          have number := List.all_takeWhile (p := isDigit) (l := rest)
          have cut := splitLexeme_number digit number (head?_dropWhile_any isDigit rest)
          rw [List.takeWhile_append_dropWhile] at cut
          rw [cut]
          exact ⟨⟨_, .number digit number⟩, head?_dropWhile_any isDigit rest⟩
        · -- none of the characters of the language
          rw [Bool.not_eq_true] at digit
          have foreign : inAlphabet c = false := by
            simp [inAlphabet, isSymbolChar, h, letter, digit, single]
          rw [splitLexeme_foreign foreign]
          refine ⟨⟨_, .foreign foreign⟩, ?_⟩
          cases rest <;> rfl
    · rw [splitLexeme_symbol single pair]
      exact ⟨⟨_, .symbol single⟩, (ofPair?_eq_none_iff_endsBefore single _).mp pair⟩
  · obtain ⟨tail, rfl⟩ := List.head?_eq_some_iff.mp (ofPair?_eq_some pair)
    have two : Symbol.withEquals? c = some symbol := by simpa [Symbol.ofPair?] using pair
    rw [splitLexeme_pair two]
    refine ⟨⟨_, .pair two⟩, ?_⟩
    cases tail with
    | nil => rfl
    | cons d tail => exact absorbs_of_withEquals? two _ d

/-- Whatever is written and ends where the rest begins is cut off. -/
theorem splitLexeme_of_written {c : Char} {tail rest : List Char} {t : Token}
    (written : t.Written c tail) (ends : t.EndsBefore rest) :
    splitLexeme c (tail ++ rest) = (t, rest) := by
  cases written with
  | word letter word =>
    rw [Token.EndsBefore, funext (absorbs_ofWord _ _)] at ends
    exact splitLexeme_word letter word ends
  | number digit number => exact splitLexeme_number digit number ends
  | symbol single =>
    -- nothing to make a pair with: that is what it means to end here
    have alone := (ofPair?_eq_none_iff_endsBefore single _).mpr ends
    exact splitLexeme_symbol single alone
  | pair two => exact splitLexeme_pair two
  | foreign foreign => exact splitLexeme_foreign foreign

theorem Token.literal_ne_nil {t : Token} (fits : t.wellFormed = true) :
    t.literal.toList ≠ [] := by
  obtain ⟨c, tail, written⟩ := wellFormed_iff_written.mp fits
  rw [written.literal_eq]
  exact List.cons_ne_nil c tail

/-- There are no blanks in a token. -/
theorem Token.Written.not_isBlank {c : Char} {tail : List Char} {t : Token}
    (h : t.Written c tail) : ∀ d ∈ c :: tail, isBlank d = false := by
  have wordChar {d : Char} (h : isWordChar d = true) := not_isBlank_of_isWordChar h
  cases h with
  | word letter word =>
    rw [List.forall_mem_cons]
    rw [List.all_eq_true] at word
    exact ⟨wordChar (isWordChar_of_isLetter letter), fun d mem => wordChar (word d mem)⟩
  | number digit number =>
    rw [List.forall_mem_cons]
    rw [List.all_eq_true] at number
    exact ⟨wordChar (isWordChar_of_isDigit digit),
      fun d mem => wordChar (isWordChar_of_isDigit (number d mem))⟩
  | symbol single =>
    rw [List.forall_mem_singleton]
    exact not_isBlank_of_ofChar? single
  | pair two =>
    rw [List.forall_mem_cons, List.forall_mem_singleton]
    rcases eq_of_withEquals? two with rfl | rfl <;> exact ⟨by decide, by decide⟩
  | foreign foreign =>
    rw [List.forall_mem_singleton]
    simp only [inAlphabet, Bool.or_eq_false_iff] at foreign
    exact foreign.1.1.1

/-! ### Whole texts -/

/-- `Lexes text tokens`: the text is blanks, a token that ends before what comes
next, blanks, and so on, and these are the tokens. -/
inductive Lexes : List Char → List Token → Prop
  | blank {gap} : gap.all isBlank = true → Lexes gap []
  | token {gap t rest ts} : gap.all isBlank = true → t.wellFormed = true →
      t.EndsBefore rest → Lexes rest ts → Lexes (gap ++ (t.literal.toList ++ rest)) (t :: ts)

/-- Blanks in front of a text make no difference. -/
theorem lexemes_append_of_isBlank {gap : List Char} (blank : gap.all isBlank = true)
    (text : List Char) : lexemes (gap ++ text) = lexemes text := by
  have same : (gap ++ text).dropWhile isBlank = text.dropWhile isBlank :=
    List.dropWhile_append_of_pos (List.all_eq_true.mp blank)
  -- the lexemes are a function of what is left behind the blanks in front
  rcases left : text.dropWhile isBlank with - | ⟨c, rest⟩
  · rw [lexemes_of_nil left, lexemes_of_nil (same.trans left)]
  · rw [lexemes_of_cons left, lexemes_of_cons (same.trans left)]

/-- A token that ends before a text is the first of the lexemes. -/
theorem lexemes_append_of_wellFormed {t : Token} {rest : List Char}
    (fits : t.wellFormed = true) (ends : t.EndsBefore rest) :
    lexemes (t.literal.toList ++ rest) = t :: lexemes rest := by
  obtain ⟨c, tail, written⟩ := Token.wellFormed_iff_written.mp fits
  have solid := written.not_isBlank c List.mem_cons_self
  have left : (t.literal.toList ++ rest).dropWhile isBlank = c :: (tail ++ rest) := by
    rw [written.literal_eq, List.cons_append, List.dropWhile_cons_of_neg (by simp [solid])]
  rw [lexemes_of_cons left, splitLexeme_of_written written ends]

theorem Lexes.lexemes_eq {text : List Char} {tokens : List Token} (h : Lexes text tokens) :
    lexemes text = tokens := by
  induction h with
  | @blank gap blank =>
    calc lexemes gap = lexemes (gap ++ []) := by rw [List.append_nil]
      _ = lexemes [] := lexemes_append_of_isBlank blank []
      _ = [] := lexemes_of_nil rfl
  | token blank fits ends _ ih =>
    rw [lexemes_append_of_isBlank blank, lexemes_append_of_wellFormed fits ends, ih]

theorem Lexes.wellFormed_of_mem {text : List Char} {tokens : List Token} (h : Lexes text tokens) :
    ∀ t ∈ tokens, t.wellFormed = true := by
  induction h with
  | blank =>
    intro t never
    cases never
  | token _ fits _ _ ih =>
    rw [List.forall_mem_cons]
    exact ⟨fits, ih⟩

/-- Every text is made up like this. -/
theorem lexes_lexemes (text : List Char) : Lexes text (lexemes text) := by
  -- by induction on the length: what is left behind the first token is shorter
  have whole := List.takeWhile_append_dropWhile (p := isBlank) (l := text)
  have gap := List.all_takeWhile (p := isBlank) (l := text)
  rcases left : text.dropWhile isBlank with - | ⟨c, rest⟩
  · rw [left, List.append_nil] at whole
    rw [lexemes_of_nil left]
    exact .blank (whole ▸ gap)
  · obtain ⟨⟨tail, written⟩, ends⟩ := splitLexeme_sound (not_isBlank_of_dropWhile left) rest
    have shorter : (splitLexeme c rest).2.length < text.length := by
      have dropped := (List.dropWhile_suffix (l := text) isBlank).length_le
      rw [left] at dropped
      exact Nat.lt_of_lt_of_le (length_splitLexeme_lt c rest) dropped
    have ih := lexes_lexemes (splitLexeme c rest).2
    have token := Lexes.token gap (Token.wellFormed_iff_written.mpr ⟨c, tail, written⟩) ends ih
    rw [literal_append_splitLexeme, ← left, whole] at token
    rwa [lexemes_of_cons left]
termination_by text.length

/-- The end is not among the lexemes. -/
theorem not_isEof_of_mem_lexemes {text : List Char} {t : Token} (mem : t ∈ lexemes text) :
    t.isEof = false :=
  Token.not_isEof_of_wellFormed ((lexes_lexemes text).wellFormed_of_mem t mem)

theorem forall_not_isEof_lexemes (text : List Char) : ∀ t ∈ lexemes text, (!t.isEof) = true := by
  intro t mem
  rw [not_isEof_of_mem_lexemes mem]
  rfl

theorem lexemes_eq_iff {text : List Char} {tokens : List Token} :
    lexemes text = tokens ↔ Lexes text tokens :=
  ⟨fun h => h ▸ lexes_lexemes text, Lexes.lexemes_eq⟩

end ScriptLexer
