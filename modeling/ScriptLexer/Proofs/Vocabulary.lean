/-
ScriptLexer/Proofs/Vocabulary.lean

A literal has one kind, and the reserved words are those of the table.

Whatever stands around it, a token could be cut off from its literal alone: nothing behind
it is no character to absorb.  So well-formed tokens with the same literal are the same
(`Token.eq_of_literal_eq`), in whichever texts they were found, and it is enough to know of
one token with a certain literal to know the kind of all.

For words there is such a token, with the kind of the word (`Token.kind_eq_ofWord`).  The
table of reserved words is written out here (`reservedWords`), and everything about keywords
and identifiers is told by it.  It has no word in it that is a part of another, and no
capital letters.  Hence a reserved word within a longer word is none, and a reserved word
with a capital letter is none.
-/
import ScriptLexer.Proofs.Layout

namespace ScriptLexer

/-! ### One literal, one token -/

namespace Token

theorem eq_of_literal_eq {t u : Token} (fits : t.wellFormed = true) (fits' : u.wellFormed = true)
    (same : t.literal = u.literal) : t = u := by
  obtain ⟨c, tail, written⟩ := wellFormed_iff_written.mp fits
  obtain ⟨d, more, written'⟩ := wellFormed_iff_written.mp fits'
  have chars := congrArg String.toList same
  rw [written.literal_eq, written'.literal_eq] at chars
  obtain ⟨rfl, rfl⟩ := List.cons.inj chars
  -- both are what is cut off from the literal
  have first := splitLexeme_of_written written (endsBefore_nil t)
  have second := splitLexeme_of_written written' (endsBefore_nil u)
  exact congrArg Prod.fst (first.symm.trans second)

/-- A token with a word for a literal has the kind of the word. -/
theorem kind_eq_ofWord {t : Token} (fits : t.wellFormed = true) (word : isWord t.literal = true) :
    t.kind = .ofWord t.literal :=
  congrArg kind (eq_of_literal_eq fits (wellFormed_ofWord word) rfl)

end Token

theorem mem_tokenize_cases {source : String} {t : Token} (mem : t ∈ tokenize source) :
    t = .eof ∨ t.wellFormed = true := by
  rw [tokenize_eq, List.mem_append, List.mem_singleton] at mem
  rcases mem with lexeme | rfl
  · exact .inr ((lexes_lexemes _).wellFormed_of_mem t lexeme)
  · exact .inl rfl

/-- Tokens of texts with the same literal are the same; the end has none. -/
theorem eq_of_mem_tokenize {source other : String} {t u : Token} (mem : t ∈ tokenize source)
    (mem' : u ∈ tokenize other) (same : t.literal = u.literal) : t = u := by
  rcases mem_tokenize_cases mem with rfl | fits
  · rcases mem_tokenize_cases mem' with rfl | fits'
    · rfl
    · exact absurd (congrArg String.toList same).symm (Token.literal_ne_nil fits')
  · rcases mem_tokenize_cases mem' with rfl | fits'
    · exact absurd (congrArg String.toList same) (Token.literal_ne_nil fits)
    · exact Token.eq_of_literal_eq fits fits' same

/-! ### The reserved words, written out -/

/-- The reserved words and their kinds. -/
def reservedWords : List (String × Kind) :=
  [("fn", .keyword .function), ("let", .keyword .letBinding), ("true", .keyword .trueLiteral),
   ("false", .keyword .falseLiteral), ("if", .keyword .ifBranch), ("else", .keyword .elseBranch),
   ("return", .keyword .returnValue)]

theorem mem_reservedWords_iff {word : String} {kind : Kind} :
    (word, kind) ∈ reservedWords ↔ ∃ k : Keyword, k.spelling = word ∧ .keyword k = kind := by
  have listed : reservedWords = Keyword.all.map fun k => (k.spelling, .keyword k) := rfl
  simp [listed, Keyword.mem_all]

theorem exists_keyword_iff {word : String} :
    (∃ k : Keyword, k.spelling = word) ↔ word ∈ reservedWords.map Prod.fst := by
  rw [List.mem_map]
  constructor
  · rintro ⟨k, spelled⟩
    exact ⟨(word, .keyword k), mem_reservedWords_iff.mpr ⟨k, spelled, rfl⟩, rfl⟩
  · rintro ⟨⟨listed, kind⟩, mem, rfl⟩
    obtain ⟨k, spelled, -⟩ := mem_reservedWords_iff.mp mem
    exact ⟨k, spelled⟩

/-- The kind of a word is looked up in the table. -/
theorem ofWord_eq_lookup (word : String) :
    Kind.ofWord word = (reservedWords.lookup word).getD .ident := by
  rcases found : reservedWords.lookup word with - | kind
  · rw [List.lookup_eq_none_iff] at found
    rcases reserved : Keyword.ofWord? word with - | k
    · simp [Kind.ofWord, reserved]
    · have listed := mem_reservedWords_iff.mpr ⟨k, Keyword.ofWord?_eq_some_iff.mp reserved, rfl⟩
      have other := found _ listed
      simp at other
  · obtain ⟨front, back, split, -⟩ := List.lookup_eq_some_iff.mp found
    have listed : (word, kind) ∈ reservedWords := by simp [split]
    obtain ⟨k, rfl, rfl⟩ := mem_reservedWords_iff.mp listed
    exact ofWord_spelling k

theorem ofWord_of_not_reserved {word : String} (free : word ∉ reservedWords.map Prod.fst) :
    Kind.ofWord word = .ident := by
  rcases reserved : Keyword.ofWord? word with - | k
  · rw [Kind.ofWord, reserved]
  · exact absurd (exists_keyword_iff.mp ⟨k, Keyword.ofWord?_eq_some_iff.mp reserved⟩) free

/-- No reserved word is a part of another. -/
theorem not_reserved_of_part {key front back : String} (reserved : key ∈ reservedWords.map Prod.fst)
    (longer : front ≠ "" ∨ back ≠ "") : front ++ key ++ back ∉ reservedWords.map Prod.fst := by
  have apart : ∀ word ∈ reservedWords.map Prod.fst, ∀ part ∈ reservedWords.map Prod.fst,
      part.toList <:+: word.toList → part = word := by
    decide +kernel
  intro whole
  have same := apart _ whole _ reserved ⟨front.toList, back.toList, by simp⟩
  have lengths := congrArg (fun word => word.toList.length) same
  simp only [String.toList_append, List.length_append] at lengths
  rcases longer with before | behind
  · have empty : front.toList.length = 0 := by omega
    exact before (String.toList_eq_nil_iff.mp (List.length_eq_zero_iff.mp empty))
  · have empty : back.toList.length = 0 := by omega
    exact behind (String.toList_eq_nil_iff.mp (List.length_eq_zero_iff.mp empty))

/-- No reserved word has a capital letter. -/
theorem not_reserved_of_capital {word : String} (capital : word.toLower ≠ word) :
    word ∉ reservedWords.map Prod.fst := by
  have small : ∀ word ∈ reservedWords.map Prod.fst, word.toLower = word := by
    decide +kernel
  intro reserved
  exact capital (small word reserved)

/-! ### Words in texts -/

namespace Token

variable {t : Token}

theorem isKeyword_kind_iff (fits : t.wellFormed = true) :
    t.kind.isKeyword = true ↔ t.literal ∈ reservedWords.map Prod.fst := by
  rw [← exists_keyword_iff]
  constructor
  · intro keyword
    obtain ⟨kind, literal⟩ := t
    cases kind with
    | keyword k => exact ⟨k, (by simpa [wellFormed] using fits : literal = k.spelling).symm⟩
    | _ => cases keyword
  · rintro ⟨k, spelled⟩
    rw [kind_eq_ofWord fits (spelled ▸ isWord_spelling k), ← spelled, ofWord_spelling]
    rfl

theorem kind_of_mem_reservedWords (fits : t.wellFormed = true) {kind : Kind}
    (listed : (t.literal, kind) ∈ reservedWords) : t.kind = kind := by
  obtain ⟨k, spelled, rfl⟩ := mem_reservedWords_iff.mp listed
  rw [kind_eq_ofWord fits (spelled ▸ isWord_spelling k), ← spelled, ofWord_spelling]

theorem kind_eq_ident_iff (fits : t.wellFormed = true) :
    t.kind = .ident ↔ isWord t.literal = true ∧ t.literal ∉ reservedWords.map Prod.fst := by
  constructor
  · intro ident
    refine ⟨?_, ?_⟩
    · rw [wellFormed, ident] at fits
      exact (Bool.and_eq_true _ _ ▸ fits).1
    · rw [← isKeyword_kind_iff fits, ident]
      exact Bool.false_ne_true
  · rintro ⟨word, free⟩
    rw [kind_eq_ofWord fits word, ofWord_of_not_reserved free]

end Token

theorem tokenize_of_isWord {word : String} (h : isWord word = true) :
    tokenize word = [⟨.ofWord word, word⟩, .eof] := by
  have nothing : lexemes [] = [] := lexemes_of_nil rfl
  have cut := lexemes_append_of_wellFormed (wellFormed_ofWord h) (Token.endsBefore_nil _)
  rw [List.append_nil, nothing] at cut
  rw [tokenize_eq, cut]
  rfl

/-- **The literal tells the token.**  Tokens of texts with the same literal are the same;
those with a reserved word have the kind that the table has for it, and those with any
other word are identifiers.  A word alone is a text of one token.  It is no keyword if a
reserved word is only a part of it, or is written in another case. -/
theorem literals_tell_tokens (source : String) :
    (∀ t ∈ tokenize source,
        (∀ other, ∀ u ∈ tokenize other, t.literal = u.literal → t = u)
          ∧ (t.kind.isKeyword = true ↔ t.literal ∈ reservedWords.map Prod.fst)
          ∧ (∀ kind, (t.literal, kind) ∈ reservedWords → t.kind = kind)
          ∧ (t.kind = .ident
              ↔ isWord t.literal = true ∧ t.literal ∉ reservedWords.map Prod.fst))
      ∧ (isWord source = true →
          tokenize source = [⟨.ofWord source, source⟩, .eof]
            ∧ Kind.ofWord source = (reservedWords.lookup source).getD .ident
            ∧ ∀ key ∈ reservedWords.map Prod.fst,
                (∀ front back, source = front ++ key ++ back → front ≠ "" ∨ back ≠ "" →
                    tokenize source = [⟨.ident, source⟩, .eof])
                  ∧ (source.toLower = key → source ≠ key →
                      tokenize source = [⟨.ident, source⟩, .eof])) := by
  refine ⟨?_, ?_⟩
  · intro t mem
    refine ⟨fun other u mem' same => eq_of_mem_tokenize mem mem' same, ?_⟩
    rcases mem_tokenize_cases mem with rfl | fits
    · -- the end has an empty literal, which is no word
      have empty : Token.eof.literal ∉ reservedWords.map Prod.fst := by decide
      refine ⟨iff_of_false Bool.false_ne_true empty, ?_, iff_of_false Kind.noConfusion ?_⟩
      · intro kind listed
        exact absurd (List.mem_map.mpr ⟨_, listed, rfl⟩) empty
      · rintro ⟨word, -⟩
        cases word
    · exact ⟨Token.isKeyword_kind_iff fits, fun kind => Token.kind_of_mem_reservedWords fits,
        Token.kind_eq_ident_iff fits⟩
  · intro word
    have alone := tokenize_of_isWord word
    refine ⟨alone, ofWord_eq_lookup source, ?_⟩
    intro key reserved
    have free (h : source ∉ reservedWords.map Prod.fst) :
        tokenize source = [⟨.ident, source⟩, .eof] := by
      rw [alone, ofWord_of_not_reserved h]
    refine ⟨?_, ?_⟩
    · intro front back whole longer
      exact free (whole ▸ not_reserved_of_part reserved longer)
    · intro lower ne
      exact free (not_reserved_of_capital (lower ▸ ne.symm))

/-- A reserved word that goes on, and one with a capital letter; the first is the same
token in a text with a keyword before it. -/
theorem literals_tell_tokens_of_longer :
    isWord "iffy" = true ∧ tokenize "iffy" = [⟨.ident, "iffy"⟩, .eof]
      ∧ isWord "If" = true ∧ tokenize "If" = [⟨.ident, "If"⟩, .eof]
      ∧ (⟨.keyword .ifBranch, "if"⟩ : Token) ∈ tokenize "if(iffy)"
      ∧ (∀ u ∈ tokenize "if(iffy)", "iffy" = u.literal → ⟨.ident, "iffy"⟩ = u)
      ∧ "if" ∈ reservedWords.map Prod.fst := by
  have key : "if" ∈ reservedWords.map Prod.fst := by decide
  have longer : isWord "iffy" = true := by decide
  have capital : isWord "If" = true := by decide
  have keyword : (⟨.keyword .ifBranch, "if"⟩ : Token) ∈ tokenize "if(iffy)" := by decide +kernel
  obtain ⟨tokens, words⟩ := literals_tell_tokens "iffy"
  have alone := ((words longer).2.2 "if" key).1 "" "fy" (by decide) (.inr (by decide))
  have first : (⟨.ident, "iffy"⟩ : Token) ∈ tokenize "iffy" := by
    rw [alone]
    exact List.mem_cons_self
  refine ⟨longer, alone, capital, ?_, keyword, (tokens _ first).1 "if(iffy)", ?_⟩
  · exact (((literals_tell_tokens "If").2 capital).2.2 "if" key).2 (by decide +kernel) (by decide)
  · exact ((literals_tell_tokens "if(iffy)").1 _ keyword).2.1.mp rfl

end ScriptLexer
