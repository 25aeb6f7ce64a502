/-
ScriptLexer/Proofs/Concatenation.lean

Where a text can be cut in two without a change in its tokens.

Of the first text only one token matters: the last one, if it goes up to the end
(`openToken?`).  All others are followed by something already, and a token ends
or does not end by the first character behind it.  The open token may go on in
the second text, and whether it does is again settled by one character.  So the
tokens of two texts in a row are the tokens of the one and of the other exactly
when the open token ends there (`lexemes_append_iff`), which is what
`mergesAcross` computes (`mergesAcross_eq_false_iff`).

It depends on the open token and not only on the last character: a digit goes on
in a letter behind `x1` but not behind `1`, an `=` in an `=` behind `=` but not
behind `==`.
-/
import ScriptLexer.Proofs.Layout

namespace ScriptLexer

/-! ### The open token -/

/-- The last token of a text, if the text ends with it and not with a blank. -/
def openToken? (text : List Char) : Option Token :=
  if text.getLast?.any isBlank then none else (lexemes text).getLast?

theorem all_isBlank_of_lexemes_eq_nil {text : List Char} (h : lexemes text = []) :
    text.all isBlank = true := by
  cases lexemes_eq_iff.mp h with
  | blank blank => exact blank

theorem lexemes_eq_nil_iff {text : List Char} :
    lexemes text = [] ↔ text.all isBlank = true :=
  ⟨all_isBlank_of_lexemes_eq_nil, fun blank => (Lexes.blank blank).lexemes_eq⟩

theorem openToken?_of_isBlank {gap : List Char} (blank : gap.all isBlank = true) :
    openToken? gap = none := by
  rw [openToken?, (Lexes.blank blank).lexemes_eq]
  split <;> rfl

/-- The last character of a token is not a blank. -/
theorem getLast?_literal_any_isBlank {t : Token} (fits : t.wellFormed = true) :
    t.literal.toList.getLast?.any isBlank = false := by
  obtain ⟨c, tail, written⟩ := Token.wellFormed_iff_written.mp fits
  rw [written.literal_eq]
  rcases last : (c :: tail).getLast? with - | d
  · rfl
  · exact written.not_isBlank d (List.mem_of_getLast? last)

theorem getLast?_append_of_ne_nil (front : List Char) {back : List Char} (h : back ≠ []) :
    (front ++ back).getLast? = back.getLast? := by
  rw [List.getLast?_append, List.getLast?_eq_some_getLast h, Option.some_or]

section OpenToken

variable {gap rest : List Char} {t : Token}

/-- The token that a text ends with is open. -/
theorem openToken?_of_nil (gapBlank : gap.all isBlank = true) (fits : t.wellFormed = true) :
    openToken? (gap ++ t.literal.toList) = some t := by
  have whole : Lexes (gap ++ (t.literal.toList ++ [])) [t] :=
    .token gapBlank fits t.endsBefore_nil (.blank rfl)
  rw [List.append_nil] at whole
  rw [openToken?, whole.lexemes_eq, getLast?_append_of_ne_nil _ (Token.literal_ne_nil fits),
    getLast?_literal_any_isBlank fits]
  rfl

/-- A token that is followed by something is not open. -/
theorem openToken?_of_ne_nil (gapBlank : gap.all isBlank = true) (fits : t.wellFormed = true)
    (ends : t.EndsBefore rest) (more : rest ≠ []) :
    openToken? (gap ++ (t.literal.toList ++ rest)) = openToken? rest := by
  have tokens := (Lexes.token gapBlank fits ends (lexes_lexemes rest)).lexemes_eq
  have last : (gap ++ (t.literal.toList ++ rest)).getLast? = rest.getLast? := by
    rw [← List.append_assoc, getLast?_append_of_ne_nil _ more]
  rw [openToken?, openToken?, tokens, last]
  rcases others : lexemes rest with - | ⟨u, us⟩
  · -- only blanks follow, and the last of them is the end of the text
    have blank := all_isBlank_of_lexemes_eq_nil others
    have blankLast : rest.getLast?.any isBlank = true := by
      rw [List.getLast?_eq_some_getLast more]
      exact List.all_eq_true.mp blank _ (List.getLast_mem more)
    rw [blankLast]
    rfl
  · rw [List.getLast?_cons_cons]

end OpenToken

/-! ### Texts in a row -/

/-- If the lexemes begin with the token that the text begins with, it ends there. -/
theorem endsBefore_of_lexemes_eq {t : Token} {more : List Char} {ts : List Token}
    (fits : t.wellFormed = true) (h : lexemes (t.literal.toList ++ more) = t :: ts) :
    t.EndsBefore more := by
  generalize same : t.literal.toList ++ more = text at h
  -- the text is made up of its lexemes in one way, and in front there is no blank
  cases lexemes_eq_iff.mp h with
  | @token gap _ rest _ gapBlank _ ends _ =>
    rcases gap with - | ⟨d, gap⟩
    · rw [List.nil_append] at same
      rwa [List.append_cancel_left same]
    · -- a blank in front, but a token begins with none
      obtain ⟨c, tail, written⟩ := Token.wellFormed_iff_written.mp fits
      rw [written.literal_eq, List.cons_append, List.cons_append] at same
      obtain ⟨rfl, -⟩ := List.cons.inj same
      rw [List.all_cons, written.not_isBlank c List.mem_cons_self] at gapBlank
      cases gapBlank

/-- Two texts in a row have the tokens of the one and of the other exactly when
the open token of the first ends there. -/
theorem lexemes_append_iff (first second : List Char) :
    lexemes (first ++ second) = lexemes first ++ lexemes second ↔
      ∀ t ∈ openToken? first, t.EndsBefore second := by
  have made := lexes_lexemes first
  generalize lexemes first = tokens at made ⊢
  -- by induction on how the first text is made up; its last token alone matters
  induction made with
  | blank blank =>
    rw [lexemes_append_of_isBlank blank, openToken?_of_isBlank blank]
    simp
  | @token gap t rest ts gapBlank fits ends _ ih =>
    rw [List.append_assoc, List.append_assoc, lexemes_append_of_isBlank gapBlank,
      List.cons_append]
    rcases rest with - | ⟨c, rest⟩
    · -- the token is open
      obtain rfl : ts = [] := by
        have nothing := Lexes.lexemes_eq ‹Lexes [] ts›
        rw [lexemes_of_nil rfl] at nothing
        exact nothing.symm
      rw [List.append_nil, openToken?_of_nil gapBlank fits, List.nil_append, List.nil_append]
      constructor
      · intro same u mem
        obtain rfl : t = u := Option.some.inj mem
        exact endsBefore_of_lexemes_eq fits same
      · intro stops
        exact lexemes_append_of_wellFormed fits (stops t rfl)
    · -- the token is followed by the rest, in either case
      have more := List.cons_ne_nil c rest
      have stays := (Token.endsBefore_append more second).mpr ends
      rw [lexemes_append_of_wellFormed fits stays, openToken?_of_ne_nil gapBlank fits ends more,
        List.cons_append, List.cons_inj_right]
      exact ih

/-! ### The boundary, computed -/

theorem mergesAcross_eq_false_iff (first second : String) :
    mergesAcross first second = false ↔
      ∀ t ∈ openToken? first.toList, t.EndsBefore second.toList := by
  rw [mergesAcross, dropLast_tokenize, openToken?]
  -- no text, a text that a blank ends, or one that a token ends
  rcases last : first.toList.getLast? with - | d
  · rw [List.getLast?_eq_none_iff] at last
    rw [last, lexemes_of_nil rfl]
    simp
  · rcases blank : isBlank d with - | -
    · rcases (lexemes first.toList).getLast? with - | t
      · simp [blank]
      · rcases second.toList with - | ⟨c, rest⟩
        · simp [blank, Token.endsBefore_nil]
        · simp [blank, Token.endsBefore_cons]
    · rcases (lexemes first.toList).getLast? with - | t
      · simp [blank]
      · rcases second.toList with - | ⟨c, rest⟩ <;> simp [blank]

/-- An open token ends before blanks, so blanks part any two texts. -/
theorem lexemes_append_gap {gap : List Char} (nonempty : gap ≠ [])
    (blank : gap.all isBlank = true) (first second : List Char) :
    lexemes (first ++ gap ++ second) = lexemes first ++ lexemes second := by
  have ends : ∀ t ∈ openToken? first, t.EndsBefore (gap ++ second) := by
    intro t _
    exact (Token.endsBefore_append nonempty second).mpr (Token.endsBefore_of_isBlank blank)
  rw [List.append_assoc, (lexemes_append_iff first _).mpr ends, lexemes_append_of_isBlank blank]

/-- Blanks at the end of a text make no difference. -/
theorem lexemes_append_right {gap : List Char} (blank : gap.all isBlank = true)
    (text : List Char) : lexemes (text ++ gap) = lexemes text := by
  have ends : ∀ t ∈ openToken? text, t.EndsBefore gap := by
    intro t _
    exact Token.endsBefore_of_isBlank blank
  rw [(lexemes_append_iff text gap).mpr ends, lexemes_eq_nil_iff.mpr blank, List.append_nil]

/-- **Texts in a row.**  The tokens of two texts in a row are those of the first
and then those of the second exactly when the texts do not merge.  Behind a token
that is already made up of two characters with an `=`, they never do; and blanks
between the texts can be exchanged for others. -/
theorem tokenize_append_iff (first second : String) :
    (tokenize (first ++ second) = (tokenize first).dropLast ++ tokenize second
        ↔ mergesAcross first second = false)
      ∧ (∀ t ∈ (tokenize first).dropLast.getLast?,
          t.kind = .symbol .equal ∨ t.kind = .symbol .notEqual →
            mergesAcross first second = false)
      ∧ ∀ gap other : String, gap ≠ "" → other ≠ "" → gap.toList.all isBlank = true →
          other.toList.all isBlank = true →
            tokenize (first ++ gap ++ second) = tokenize (first ++ other ++ second) := by
  refine ⟨?_, ?_, ?_⟩
  · rw [dropLast_tokenize, tokenize_eq, tokenize_eq, String.toList_append, ← List.append_assoc,
      List.append_left_inj, lexemes_append_iff, mergesAcross_eq_false_iff]
  · intro t last kind
    rw [mergesAcross_eq_false_iff]
    intro u isOpen
    rw [dropLast_tokenize] at last
    obtain rfl : u = t := by
      unfold openToken? at isOpen
      split at isOpen
      · cases isOpen
      · exact Option.some.inj (isOpen.symm.trans last)
    -- these symbols absorb nothing, so they end before any text
    have absorbs (c : Char) : u.absorbs c = false := by
      rcases kind with kind | kind <;> simp [Token.absorbs, kind]
    rcases second.toList with - | ⟨c, rest⟩
    · exact u.endsBefore_nil
    · exact absorbs c
  · intro gap other nonempty nonempty' blank blank'
    have parted (gap : String) (nonempty : gap ≠ "") (blank : gap.toList.all isBlank = true) :=
      lexemes_append_gap (mt String.toList_eq_nil_iff.mp nonempty) blank first.toList second.toList
    simp only [tokenize_eq, String.toList_append]
    rw [parted gap nonempty blank, parted other nonempty' blank']

/-- An `=` behind `==` is a symbol of its own, and so it is behind any blank. -/
theorem tokenize_append_iff_of_equals :
    mergesAcross "x ==" "=" = false
      ∧ tokenize ("x ==" ++ " " ++ "=") = tokenize ("x ==" ++ "\n" ++ "=") := by
  obtain ⟨-, parted, exchanged⟩ := tokenize_append_iff "x ==" "="
  refine ⟨parted ⟨.symbol .equal, "=="⟩ ?_ (.inl rfl), exchanged " " "\n" ?_ ?_ ?_ ?_⟩
  · decide +kernel
  all_goals decide

end ScriptLexer
