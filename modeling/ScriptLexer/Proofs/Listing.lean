/-
ScriptLexer/Proofs/Listing.lean

The listing of a text has a line for each token, and the tokens can be told from it.

A token is shown with its literal as it is: no quotes, nothing escaped.  So a brace, a
colon or a quote in it is not told apart from those of the frame around it.  The listing
can be read all the same, for two reasons.  The name of a kind is made of letters, so the
name ends at the first space, and the frame behind the literal has a known length
(`Token.display_injective`).  And a literal never holds a line feed or a carriage return,
which are blanks, so the lines of the listing are the tokens (`splitOn_linesText`).

The second is not true of tokens as such, it is true of the tokens of a text
(`Token.notMem_display`).
-/
import ScriptLexer.Proofs.Layout
import ScriptLexer.Session

namespace ScriptLexer

/-! ### Tokens as they are shown -/

/-- The name of a kind is made of letters. -/
theorem Kind.all_isLetter_name (kind : Kind) : kind.name.toList.all isLetter = true := by
  have key : ∀ x ∈ Kind.all, x.name.toList.all isLetter = true := by decide
  exact key kind kind.mem_all

/-- The name of a kind can be told from what stands behind it, if that is a space: a
space is no letter. -/
theorem Kind.name_append_inj {kind other : Kind} {rest more : List Char}
    (same : kind.name.toList ++ ' ' :: rest = other.name.toList ++ ' ' :: more) :
    kind = other ∧ rest = more := by
  obtain ⟨names, behind⟩ :=
    append_inj_of_stops kind.all_isLetter_name rfl other.all_isLetter_name rfl same
  rw [String.toList_inj] at names
  rw [List.cons_inj_right] at behind
  exact ⟨Kind.name_injective names, behind⟩

namespace Token

theorem toList_display (t : Token) :
    t.display.toList
      = "\x7bType:".toList
        ++ (t.kind.name.toList ++ ' ' :: ("Literal:".toList ++ (t.literal.toList ++ ['\x7d']))) := by
  have frame : " Literal:" = " " ++ "Literal:" := by decide
  have close : "\x7d".toList = ['\x7d'] := by decide
  have space : " ".toList = [' '] := by decide
  simp only [display, frame, String.toList_append, close, space, List.append_assoc,
    List.cons_append, List.nil_append]

/-- Tokens that are shown alike are the same. -/
theorem display_injective {t u : Token} (h : t.display = u.display) : t = u := by
  have shown := congrArg String.toList h
  rw [toList_display, toList_display, List.append_right_inj] at shown
  obtain ⟨kinds, literals⟩ := Kind.name_append_inj shown
  rw [List.append_right_inj, List.append_left_inj, String.toList_inj] at literals
  obtain ⟨kind, literal⟩ := t
  obtain rfl : kind = u.kind := kinds
  obtain rfl : literal = u.literal := literals
  rfl

/-- Of the blanks, only the space is found in a token of a text as it is shown. -/
theorem notMem_display {t : Token} (fits : t.wellFormed = true) {c : Char}
    (blank : isBlank c = true) (ne : c ≠ ' ') : c ∉ t.display.toList := by
  have plain {text : List Char} (solid : text.all (fun d => !isBlank d) = true) : c ∉ text := by
    intro mem
    have fails := List.all_eq_true.mp solid c mem
    rw [blank] at fails
    cases fails
  have name : c ∉ t.kind.name.toList := by
    intro mem
    have letter := List.all_eq_true.mp t.kind.all_isLetter_name c mem
    rw [not_isBlank_of_isWordChar (isWordChar_of_isLetter letter)] at blank
    cases blank
  have literal : c ∉ t.literal.toList := by
    obtain ⟨d, tail, written⟩ := wellFormed_iff_written.mp fits
    intro mem
    rw [written.not_isBlank c (written.literal_eq ▸ mem)] at blank
    cases blank
  have opening : c ∉ "\x7bType:".toList := plain (by decide)
  have middle : c ∉ "Literal:".toList := plain (by decide)
  have closing : c ∉ ['\x7d'] := plain (by decide)
  simp only [toList_display, List.mem_append, List.mem_cons (b := ' '), not_or]
  exact ⟨opening, name, ne, middle, literal, closing⟩

end Token

/-! ### Lines -/

theorem toList_linesText (lines : List String) :
    (linesText lines).toList = lines.flatMap fun line => line.toList ++ ['\n'] := by
  rw [linesText, String.toList_join, List.flatMap_map]
  simp

/-- Between its line feeds, the text of lines is those lines, and nothing behind the
last one. -/
theorem splitOn_linesText {lines : List String} (single : ∀ line ∈ lines, '\n' ∉ line.toList) :
    (linesText lines).toList.splitOn '\n' = lines.map String.toList ++ [[]] := by
  rw [toList_linesText]
  induction lines with
  | nil => rfl
  | cons line lines ih =>
    obtain ⟨first, others⟩ := List.forall_mem_cons.mp single
    rw [List.flatMap_cons, List.append_assoc, List.singleton_append,
      List.splitOn_append_cons_self_of_not_mem first, ih others]
    rfl

/-- Lines can be told from their text. -/
theorem linesText_inj {lines others : List String} (single : ∀ line ∈ lines, '\n' ∉ line.toList)
    (single' : ∀ line ∈ others, '\n' ∉ line.toList) :
    linesText lines = linesText others ↔ lines = others := by
  refine ⟨?_, congrArg linesText⟩
  intro same
  have parts := congrArg (fun text => text.toList.splitOn '\n') same
  simp only [splitOn_linesText single, splitOn_linesText single', List.append_left_inj] at parts
  exact (List.map_inj_right fun _ _ => String.toList_inj.mp).mp parts

/-! ### The listing of a text -/

theorem listTokens_eq (text : String) :
    listTokens text = (lexemes text.toList).map Token.display := by
  rw [listTokens, tokenize_eq, List.takeWhile_append_of_pos (forall_not_isEof_lexemes _)]
  simp [Token.isEof, Token.eof]

theorem notMem_of_mem_listTokens {source shown : String} (mem : shown ∈ listTokens source)
    {c : Char} (blank : isBlank c = true) (ne : c ≠ ' ') : c ∉ shown.toList := by
  rw [listTokens_eq] at mem
  obtain ⟨t, member, rfl⟩ := List.mem_map.mp mem
  exact Token.notMem_display ((lexes_lexemes _).wellFormed_of_mem t member) blank ne

theorem lineFeed_notMem_listTokens (source : String) :
    ∀ shown ∈ listTokens source, '\n' ∉ shown.toList :=
  fun _ mem => notMem_of_mem_listTokens mem (by decide) (by decide)

/-- **The listing of a text is lossless.**  It is the tokens as they are shown, all but
the end, one on each line; and texts with the same listing have the same tokens. -/
theorem listing_lossless (source : String) :
    (∃ tokens, tokenize source = tokens ++ [Token.eof] ∧ (∀ t ∈ tokens, t.isEof = false)
        ∧ listTokens source = tokens.map Token.display
        ∧ (∀ shown ∈ listTokens source, '\n' ∉ shown.toList ∧ '\r' ∉ shown.toList)
        ∧ (linesText (listTokens source)).toList.splitOn '\n'
            = tokens.map (fun t => t.display.toList) ++ [[]])
      ∧ ∀ other, linesText (listTokens source) = linesText (listTokens other)
          ↔ tokenize source = tokenize other := by
  have single := lineFeed_notMem_listTokens
  refine ⟨⟨lexemes source.toList, tokenize_eq source, ?_, listTokens_eq source, ?_, ?_⟩, ?_⟩
  · intro t mem
    exact not_isEof_of_mem_lexemes mem
  · intro shown mem
    exact ⟨single source shown mem, notMem_of_mem_listTokens mem (by decide) (by decide)⟩
  · rw [splitOn_linesText (single source), listTokens_eq, List.map_map]
    rfl
  · intro other
    rw [linesText_inj (single source) (single other), listTokens_eq, listTokens_eq, tokenize_eq,
      tokenize_eq, List.append_left_inj]
    exact List.map_inj_right fun _ _ => Token.display_injective

end ScriptLexer
