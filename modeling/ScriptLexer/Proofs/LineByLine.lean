/-
ScriptLexer/Proofs/LineByLine.lean

A session lists the tokens that a file lists.

The same text can be given to the program in two ways: as lines to a session, which
lexes each line by itself and answers nothing to a blank one; or as a file, which is
lexed whole.  No token goes across a line feed, so cutting the text loses nothing
(`lexemes_splitOn`), and what an editor takes off the end of a line is blank, so that
loses nothing either (`Session.answer_dropLineEnd`).

What can be lost is a line that the session takes for blank.  It goes by white space,
of which there is more than the scanner has blanks, so a line can have tokens and get
no answer (`Session.Hidden`, `Session.answer_eq_listTokens_iff`).  Nothing else is ever
answered than tokens.  The answers are therefore the listing of the file with some of
its lines left out, and comparing the two outputs comes to asking whether any line has
been (`flatMap_eq_iff_of_sublist`, `linesText_eq_iff_of_sublist`).

The editor may be any that hands lines on as they are (`LineEditor.Faithful`), as the
one of an input that is no terminal does (`LineEditor.faithful_piped`).
-/
import Mathlib.Data.List.Flatten
import ScriptLexer.Proofs.FileRun
import ScriptLexer.Proofs.Lines
import ScriptLexer.Proofs.Listing
import ScriptLexer.Proofs.Pulls

namespace ScriptLexer

/-! ### Blanks and white space -/

/-- A blank is white space, but white space need not be a blank. -/
theorem isWhiteSpace_of_isBlank {c : Char} (h : isBlank c = true) : isWhiteSpace c = true := by
  rcases isBlank_iff.mp h with rfl | rfl | rfl | rfl <;> decide

/-! ### Line ends -/

namespace LineEditor

/-- An editor that writes nothing, and hands on every line that holds no backspace as it
is, but for its end. -/
structure Faithful (editor : LineEditor) (terminal : String) : Prop where
  starts : editor.refusal = none
  quiet : editor.prompting terminal Session.prompt = ""
  reading_eq : ∀ line, line ≠ [] → '\n' ∉ line.dropLast → backspace ∉ line →
    editor.reading (encoded line) = .line (dropLineEnd (String.ofList line))

/-- What is taken off at the end of a line is blank. -/
theorem exists_lineEnd (line : String) :
    ∃ gap : List Char, gap.all isBlank = true ∧ line.toList = (dropLineEnd line).toList ++ gap := by
  unfold dropLineEnd
  split
  next rest backwards =>
    refine ⟨['\r', '\n'], by decide, ?_⟩
    rw [← List.reverse_inj, backwards]
    simp
  next rest _ backwards =>
    refine ⟨['\n'], by decide, ?_⟩
    rw [← List.reverse_inj, backwards]
    simp
  next => exact ⟨[], rfl, by simp⟩

/-- The editor of an input that is no terminal is faithful where it writes no prompt. -/
theorem faithful_piped {terminal : String} (edits : promptOn terminal Session.prompt = "") :
    piped.Faithful terminal where
  starts := rfl
  quiet := edits
  reading_eq := by
    intro line _ _ clean
    have kept : backspace ∉ (dropLineEnd (String.ofList line)).toList := by
      obtain ⟨gap, -, same⟩ := exists_lineEnd (String.ofList line)
      rw [String.toList_ofList] at same
      rw [same, List.mem_append, not_or] at clean
      exact clean.1
    show readLine (encoded line) = _
    rw [readLine_encoded, eraseBackspaces_of_notMem kept]

end LineEditor

namespace Session

/-! ### One line -/

/-- Blanks at the end of a line make no difference to the answer. -/
theorem answer_of_append {line bare : String} {gap : List Char} (blank : gap.all isBlank = true)
    (same : line.toList = bare.toList ++ gap) : answer line = answer bare := by
  have space : gap.all isWhiteSpace = true := by
    rw [List.all_eq_true] at blank ⊢
    intro c mem
    exact isWhiteSpace_of_isBlank (blank c mem)
  have blankText : isBlankText line = isBlankText bare := by
    rw [isBlankText, same, List.all_append, space, Bool.and_true, isBlankText]
  have tokens : lexemes line.toList = lexemes bare.toList := by
    rw [same, lexemes_append_right blank]
  rw [answer, answer, blankText, listTokens_eq, listTokens_eq, tokens]

theorem answer_dropLineEnd (line : String) :
    answer (LineEditor.dropLineEnd line) = answer line := by
  obtain ⟨gap, blank, same⟩ := LineEditor.exists_lineEnd line
  exact (answer_of_append blank same).symm

theorem answer_append_lineFeed (line : List Char) :
    answer (String.ofList (line ++ ['\n'])) = answer (String.ofList line) := by
  have blank : ['\n'].all isBlank = true := by decide
  apply answer_of_append blank
  simp

/-! ### The session -/

open LineEditor (encoded linesOf)

variable {editor : LineEditor} {terminal : String}

/-- A session without a prompt answers the first line, then the others. -/
theorem converse_cons (faithful : editor.Faithful terminal) {line : List Char}
    (nonempty : line ≠ []) (single : '\n' ∉ line.dropLast) (clean : backspace ∉ line)
    (others : List (List UInt8)) :
    converse editor "" "" (encoded line :: others)
      = (linesText (answer (String.ofList line)) ++ (converse editor "" "" others).1,
          (converse editor "" "" others).2) := by
  have read := faithful.reading_eq line nonempty single clean
  rw [converse_of_goesOn "" (congrArg turn read), answer_dropLineEnd]
  simp

/-- A session on a text answers its lines. -/
theorem converse_encoded (faithful : editor.Faithful terminal) {text : List Char}
    (clean : backspace ∉ text) :
    converse editor "" "" (linesOf (encoded text))
      = (linesText ((text.splitOn '\n').flatMap fun line => answer (String.ofList line)), none) := by
  induction text using byLines with
  | last line single =>
    rw [LineEditor.linesOf_encoded_last single, List.splitOn_eq_singleton single,
      List.flatMap_singleton]
    rcases line with - | ⟨c, rest⟩
    · rfl
    · have within : '\n' ∉ (c :: rest).dropLast := fun mem => single (List.dropLast_subset _ mem)
      rw [if_neg (List.cons_ne_nil c rest),
        converse_cons faithful (List.cons_ne_nil c rest) within clean]
      simp [converse]
  | more line rest single ih =>
    rw [List.append_cons, List.mem_append, not_or] at clean
    obtain ⟨cleanLine, cleanRest⟩ := clean
    have within : '\n' ∉ (line ++ ['\n']).dropLast := by rwa [List.dropLast_concat]
    rw [LineEditor.linesOf_encoded_append single,
      converse_cons faithful (List.append_ne_nil_of_right_ne_nil _ (List.cons_ne_nil _ _)) within
        cleanLine,
      ih cleanRest, answer_append_lineFeed, List.splitOn_append_cons_self_of_not_mem single,
      List.flatMap_cons, linesText_append]

/-! ### Answers against tokens -/

/-- A line that is taken for blank and is not blank to the scanner: all of it is white
space, and some of it is no blank. -/
structure Hidden (line : String) : Prop where
  space : ∀ c ∈ line.toList, isWhiteSpace c = true
  solid : ∃ c ∈ line.toList, c ∉ blanks

theorem hidden_iff {line : String} :
    Hidden line ↔ isBlankText line = true ∧ line.toList.all isBlank = false := by
  rw [isBlankText_iff, List.all_eq_false]
  simp only [isBlank_eq_contains, List.contains_iff_mem]
  exact ⟨fun hidden => ⟨hidden.space, hidden.solid⟩, fun ⟨space, solid⟩ => ⟨space, solid⟩⟩

instance (line : String) : Decidable (Hidden line) :=
  decidable_of_iff _ hidden_iff.symm

/-- A line is answered by its tokens unless it is hidden. -/
theorem answer_eq_listTokens_iff {line : String} :
    answer line = listTokens line ↔ ¬ Hidden line := by
  rw [answer, hidden_iff, not_and, Bool.not_eq_false]
  by_cases space : isBlankText line = true
  · rw [if_pos space, eq_comm, listTokens_eq, List.map_eq_nil_iff, lexemes_eq_nil_iff]
    exact ⟨fun blank _ => blank, fun blank => blank space⟩
  · rw [if_neg space]
    exact iff_of_true rfl fun blankText => absurd blankText space

theorem answer_sublist_listTokens (line : String) : (answer line).Sublist (listTokens line) := by
  rw [answer]
  split
  · exact List.nil_sublist _
  · exact List.Sublist.refl _

end Session

/-! ### What has been left out -/

section LeftOut

variable {α β : Type}

/-- If neither of two parts is longer than the one in its place, both are the same where
the wholes are. -/
theorem append_inj_of_length_le {first later first' later' : List α}
    (shorter : first.length ≤ first'.length) (shorter' : later.length ≤ later'.length)
    (same : first ++ later = first' ++ later') : first = first' ∧ later = later' := by
  have whole := congrArg List.length same
  rw [List.length_append, List.length_append] at whole
  exact List.append_inj same (by omega)

/-- If of each part something or nothing has been left out, then nothing has been left
out of the whole exactly when nothing has of any part. -/
theorem flatMap_eq_iff_of_sublist {f g : α → List β} (h : ∀ x, (f x).Sublist (g x))
    (xs : List α) : xs.flatMap f = xs.flatMap g ↔ ∀ x ∈ xs, f x = g x := by
  induction xs with
  | nil => simp
  | cons x xs ih =>
    rw [List.flatMap_cons, List.flatMap_cons, List.forall_mem_cons, ← ih]
    constructor
    · have first := (h x).length_le
      have later := (List.Sublist.flatMap_right xs fun y _ => h y).length_le
      exact append_inj_of_length_le first later
    · rintro ⟨first, later⟩
      rw [first, later]

/-- If some of the parts have been left out, and no part is empty, the whole has
changed. -/
theorem eq_of_flatMap_eq {f : α → List β} (nonempty : ∀ x, f x ≠ []) {xs ys : List α}
    (h : xs.Sublist ys) (same : xs.flatMap f = ys.flatMap f) : xs = ys := by
  induction h with
  | slnil => rfl
  | @cons xs ys y h _ =>
    exfalso
    have fewer := (h.flatMap f).length_le
    have more := List.length_pos_iff.mpr (nonempty y)
    have whole := congrArg List.length same
    rw [List.flatMap_cons, List.length_append] at whole
    omega
  | cons_cons y _ ih =>
    rw [List.flatMap_cons, List.flatMap_cons, List.append_right_inj] at same
    rw [ih same]

end LeftOut

/-- Lines of which some have been left out make another text. -/
theorem linesText_eq_iff_of_sublist {fewer lines : List String} (h : fewer.Sublist lines) :
    linesText fewer = linesText lines ↔ fewer = lines := by
  refine ⟨?_, congrArg linesText⟩
  intro same
  have chars := congrArg String.toList same
  rw [toList_linesText, toList_linesText] at chars
  exact eq_of_flatMap_eq (fun line => by simp) h chars

/-! ### A session against a file -/

/-- The output of a session on a text without a backspace. -/
theorem stdout_session {editor : LineEditor} {terminal source : String}
    (faithful : editor.Faithful terminal) (clean : backspace ∉ source.toList) :
    (Session.run editor terminal source.toUTF8).stdout
      = linesText ((source.toList.splitOn '\n').flatMap fun line =>
          Session.answer (String.ofList line)) := by
  simp only [Session.run, faithful.starts, faithful.quiet]
  rw [LineEditor.lines_eq, LineEditor.toList_data_toUTF8, Session.converse_encoded faithful clean]
  exact Outcome.stdout_ending _ _

/-- The output of a run on a file is the list of its tokens, and two lines more. -/
theorem stdout_listFile (path elapsed source : String) :
    (CommandLine.listFile path elapsed (tokenize source)).stdout
      = linesText ((source.toList.splitOn '\n').flatMap fun line =>
            listTokens (String.ofList line))
        ++ linesText [Token.eof.display, CommandLine.timeLine elapsed] := by
  simp only [listTokens_eq, String.toList_ofList]
  rw [CommandLine.listFile, Outcome.stdout_ending, tokenize_eq, List.map_append, List.append_assoc,
    linesText_append, lexemes_splitOn, List.map_flatMap]
  rfl

/-- **A session lists what a file lists**, line by line, unless a line is hidden.  The
lines of the source are taken between its line feeds, the carriage returns left where
they are, so with them or without them a source is listed alike.  Such a line holds no
line feed: it is hidden if all of it is white space, and some of it no space, tab or
carriage return.  The end and the time are printed for a file only. -/
theorem session_lists_like_file_iff {source path : String} {filed typed : Environment}
    (stored : filed.read path = .ok source.toUTF8) (given : typed.stdin = source.toUTF8)
    (faithful : typed.editor.Faithful typed.terminal) (clean : backspace ∉ source.toList)
    (elapsed elapsed' : String) :
    ∃ listing,
      (CommandLine.run [path] filed elapsed).stdout
          = listing ++ linesText [Token.eof.display, CommandLine.timeLine elapsed]
        ∧ ((CommandLine.run [] typed elapsed').stdout = listing ↔
            ¬ ∃ line ∈ source.toList.splitOn '\n', Session.Hidden (String.ofList line)) := by
  refine ⟨linesText ((source.toList.splitOn '\n').flatMap fun line =>
    listTokens (String.ofList line)), ?_, ?_⟩
  · show (CommandLine.runFile filed.read path elapsed).stdout = _
    rw [runFile_of_text stored]
    exact stdout_listFile path elapsed source
  · show (Session.run typed.editor typed.terminal typed.stdin).stdout = _ ↔ _
    have fewer (line : List Char) := Session.answer_sublist_listTokens (String.ofList line)
    have kept := List.Sublist.flatMap_right (source.toList.splitOn '\n') fun line _ => fewer line
    rw [given, stdout_session faithful clean, linesText_eq_iff_of_sublist kept,
      flatMap_eq_iff_of_sublist fewer]
    simp only [Session.answer_eq_listTokens_iff, not_exists, not_and]

/-- Carriage returns and tabs are listed alike, a line that is a no-break space is
not. -/
theorem session_lists_like_file_iff_of_lineEnds :
    (∃ listing,
        (CommandLine.run ["a"]
            { read := fun _ => .ok "x\r\n\t\r\n@".toUTF8, stdin := .empty, terminal := "" }
            "1s").stdout
            = listing ++ linesText [Token.eof.display, CommandLine.timeLine "1s"]
          ∧ (CommandLine.run []
              { read := fun _ => .error .notFound, stdin := "x\r\n\t\r\n@".toUTF8,
                terminal := "xterm" } "2s").stdout = listing)
      ∧ ∃ listing,
        (CommandLine.run ["a"]
            { read := fun _ => .ok "x\n\u00a0\n".toUTF8, stdin := .empty, terminal := "" }
            "1s").stdout
            = listing ++ linesText [Token.eof.display, CommandLine.timeLine "1s"]
          ∧ (CommandLine.run []
              { read := fun _ => .error .notFound, stdin := "x\n\u00a0\n".toUTF8,
                terminal := "xterm" } "2s").stdout ≠ listing := by
  have faithful : LineEditor.piped.Faithful "xterm" :=
    LineEditor.faithful_piped (by decide +kernel)
  refine ⟨?_, ?_⟩
  · obtain ⟨listing, file, same⟩ := @session_lists_like_file_iff "x\r\n\t\r\n@" "a"
      { read := fun _ => .ok "x\r\n\t\r\n@".toUTF8, stdin := .empty, terminal := "" }
      { read := fun _ => .error .notFound, stdin := "x\r\n\t\r\n@".toUTF8, terminal := "xterm" }
      rfl rfl faithful (by decide) "1s" "2s"
    exact ⟨listing, file, same.mpr (by decide +kernel)⟩
  · obtain ⟨listing, file, same⟩ := @session_lists_like_file_iff "x\n\u00a0\n" "a"
      { read := fun _ => .ok "x\n\u00a0\n".toUTF8, stdin := .empty, terminal := "" }
      { read := fun _ => .error .notFound, stdin := "x\n\u00a0\n".toUTF8, terminal := "xterm" }
      rfl rfl faithful (by decide) "1s" "2s"
    exact ⟨listing, file, mt same.mp (by decide +kernel)⟩

end ScriptLexer
