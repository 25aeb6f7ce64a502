/-
ScriptLexer/Proofs/HiddenLines.lean

A session hides the tokens of lines that are white space.

A session answers nothing to a line of white space, as if it had no tokens.  But there
is more white space than the scanner has blanks, and what is not blank is an illegal
character to it.  A line of white space with such characters has a token for each of
them (`listTokens_of_isBlankText`) and is answered by none: it is hidden
(`Session.Hidden`).  No other line is (`Session.answer_eq_listTokens_iff`).

For a whole session, the answers are left open (`Session.runBy`): the session is the one
with its own answers, and it should be the one that answers every line by its tokens.
The two are the same exactly if no line that is received is hidden
(`session_shows_tokens_iff`).  Answers that leave something out make the output shorter,
so nothing that comes later can make up for it (`Session.fst_converseBy_eq_iff`).
-/
import ScriptLexer.Proofs.Foreign
import ScriptLexer.Proofs.LineByLine
import ScriptLexer.Proofs.Pulls

namespace ScriptLexer

/-! ### White space to the scanner -/

/-- White space that is no blank is foreign to the scanner. -/
theorem notMem_alphabet_of_isWhiteSpace {c : Char} (space : isWhiteSpace c = true)
    (solid : isBlank c = false) : c ∉ alphabet := by
  have key : alphabet.all (fun d => !isWhiteSpace d || isBlank d) = true := by decide +kernel
  intro mem
  have blank := List.all_eq_true.mp key c mem
  simp [space, solid] at blank

/-- White space has an illegal token for each character that is no blank. -/
theorem lexemes_of_isWhiteSpace {text : List Char} (space : ∀ c ∈ text, isWhiteSpace c = true) :
    lexemes text = (withoutBlanks text).map fun c => ⟨.illegal, String.singleton c⟩ := by
  induction text with
  | nil => exact lexemes_of_nil rfl
  | cons c text ih =>
    obtain ⟨first, later⟩ := List.forall_mem_cons.mp space
    rw [← List.singleton_append, withoutBlanks_append, List.map_append, ← ih later]
    rcases blank : isBlank c with - | -
    · have outside := notMem_alphabet_of_isWhiteSpace first blank
      rw [mem_alphabet_iff, Bool.not_eq_true] at outside
      have fits : (Token.mk .illegal (String.singleton c)).wellFormed = true :=
        isForeign_iff.mpr ⟨c, rfl, outside⟩
      have ends : (Token.mk .illegal (String.singleton c)).EndsBefore text := by
        cases text <;> rfl
      have read := lexemes_append_of_wellFormed fits ends
      have whole := withoutBlanks_literal fits
      rw [String.toList_singleton] at read whole
      rw [read, whole]
      rfl
    · have gap : [c].all isBlank = true := by simp [blank]
      rw [lexemes_append_of_isBlank gap, withoutBlanks_of_isBlank gap]
      rfl

theorem listTokens_of_isBlankText {line : String} (space : isBlankText line = true) :
    listTokens line
      = (withoutBlanks line.toList).map fun c =>
          (Token.mk .illegal (String.singleton c)).display := by
  rw [listTokens_eq, lexemes_of_isWhiteSpace (isBlankText_iff.mp space), List.map_map]
  rfl

namespace Session

/-! ### Hidden lines -/

/-- A line without tokens is taken for blank.  The converse fails where a line is
hidden. -/
theorem isBlankText_iff_listTokens_eq_nil {line : String} :
    (isBlankText line = true ↔ listTokens line = []) ↔ ¬ Hidden line := by
  rw [hidden_iff, not_and, Bool.not_eq_false, listTokens_eq, List.map_eq_nil_iff,
    lexemes_eq_nil_iff]
  constructor
  · exact Iff.mp
  · intro blank
    refine ⟨blank, ?_⟩
    intro solid
    rw [isBlankText_iff]
    intro c mem
    exact isWhiteSpace_of_isBlank (List.all_eq_true.mp solid c mem)

/-- A hidden line is answered by nothing, and has a token for each of its characters
that are no blanks. -/
theorem Hidden.answer_eq {line : String} (hidden : Hidden line) :
    answer line = []
      ∧ listTokens line
          = (withoutBlanks line.toList).map fun c =>
              (Token.mk .illegal (String.singleton c)).display := by
  have space := isBlankText_iff.mpr hidden.space
  exact ⟨if_pos space, listTokens_of_isBlankText space⟩

/-! ### Sessions with other answers -/

variable {editor : LineEditor} {prompting : String}

/-- The turn of a session that replies to lines in some other way. -/
def turnBy (reply : String → List String) : Reading → Turn
  | .line text => .goesOn (reply text)
  | reading => turn reading

theorem turnBy_answer (reading : Reading) : turnBy answer reading = turn reading := by
  cases reading <;> rfl

/-- Replies to lines one after the other, as `converse` answers them. -/
def converseBy (reply : String → List String) (editor : LineEditor) (prompting : String) :
    List (List UInt8) → String × Option Diagnostic
  | [] => (prompting, none)
  | bytes :: rest =>
    match turnBy reply (editor.reading bytes) with
    | .goesOn shown =>
      (prompting ++ linesText shown ++ (converseBy reply editor prompting rest).1,
        (converseBy reply editor prompting rest).2)
    | .ends verdict => (prompting, verdict)

/-- The lines that are handed on, up to where the session ends. -/
def handed (editor : LineEditor) : List (List UInt8) → List String
  | [] => []
  | bytes :: rest =>
    match editor.reading bytes with
    | .line text => text :: handed editor rest
    | .interrupted => handed editor rest
    | .closed => []
    | .failed _ => []

theorem converse_eq_converseBy (lines : List (List UInt8)) :
    converse editor prompting "" lines = converseBy answer editor prompting lines := by
  induction lines with
  | nil => simp [converse, converseBy]
  | cons bytes rest ih =>
    rcases turned : turn (editor.reading bytes) with shown | verdict
    · rw [converse_of_goesOn prompting turned, ih, converseBy, turnBy_answer, turned]
    · rw [converse_of_ends prompting turned, converseBy, turnBy_answer, turned]

section Replies

variable {reply other : String → List String}

/-- What a session fails by does not depend on its replies. -/
theorem snd_converseBy_eq (lines : List (List UInt8)) :
    (converseBy reply editor prompting lines).2 = (converseBy other editor prompting lines).2 := by
  induction lines with
  | nil => rfl
  | cons bytes rest ih =>
    rcases read : editor.reading bytes with text | - | - | message
    · simp only [converseBy, turnBy, read, ih]
    · simp only [converseBy, turnBy, turn, read, ih]
    · simp only [converseBy, turnBy, turn, read]
    · simp only [converseBy, turnBy, turn, read]

theorem length_linesText_le {fewer lines : List String} (h : fewer.Sublist lines) :
    (linesText fewer).length ≤ (linesText lines).length := by
  rw [← String.length_toList, ← String.length_toList, toList_linesText, toList_linesText]
  exact (h.flatMap _).length_le

theorem length_converseBy_le (fewer : ∀ line, (reply line).Sublist (other line))
    (lines : List (List UInt8)) :
    (converseBy reply editor prompting lines).1.length
      ≤ (converseBy other editor prompting lines).1.length := by
  induction lines with
  | nil => exact Nat.le_refl _
  | cons bytes rest ih =>
    rcases read : editor.reading bytes with text | - | - | message
    · have first := length_linesText_le (fewer text)
      simp only [converseBy, turnBy, read, String.length_append]
      omega
    · simp only [converseBy, turnBy, turn, read, String.length_append]
      omega
    · simp only [converseBy, turnBy, turn, read, Nat.le_refl]
    · simp only [converseBy, turnBy, turn, read, Nat.le_refl]

/-- Replies that leave something out are told from the full ones by what is written. -/
theorem fst_converseBy_eq_iff (fewer : ∀ line, (reply line).Sublist (other line))
    (lines : List (List UInt8)) :
    (converseBy reply editor prompting lines).1 = (converseBy other editor prompting lines).1
      ↔ ∀ line ∈ handed editor lines, reply line = other line := by
  induction lines with
  | nil => simp [converseBy, handed]
  | cons bytes rest ih =>
    rcases read : editor.reading bytes with text | - | - | message
    · simp only [converseBy, turnBy, handed, read, List.forall_mem_cons, ← ih,
        String.append_assoc, String.append_right_inj]
      constructor
      · intro written
        have chars := congrArg String.toList written
        rw [String.toList_append, String.toList_append] at chars
        have first := length_linesText_le (fewer text)
        have later : (converseBy reply editor prompting rest).1.length
            ≤ (converseBy other editor prompting rest).1.length := length_converseBy_le fewer rest
        rw [← String.length_toList, ← String.length_toList] at first later
        obtain ⟨shown, others⟩ := append_inj_of_length_le first later chars
        rw [String.toList_inj] at shown others
        exact ⟨(linesText_eq_iff_of_sublist (fewer text)).mp shown, others⟩
      · rintro ⟨shown, others⟩
        rw [shown, others]
    · simp only [converseBy, turnBy, turn, handed, read, ← ih, String.append_right_inj]
    · simp [converseBy, turnBy, turn, handed, read]
    · simp [converseBy, turnBy, turn, handed, read]

end Replies

/-! ### Whole sessions -/

/-- A whole session, with other answers. -/
def runBy (reply : String → List String) (editor : LineEditor) (terminal : String)
    (input : ByteArray) : Outcome :=
  match editor.refusal with
  | some message => Outcome.ending "" (some (failure message))
  | none =>
    let (printed, failure) :=
      converseBy reply editor (editor.prompting terminal prompt) (LineEditor.lines input)
    Outcome.ending printed failure

/-- The lines that a session receives. -/
def received (editor : LineEditor) (input : ByteArray) : List String :=
  if editor.refusal.isSome then [] else handed editor (LineEditor.lines input)

theorem run_eq_runBy (editor : LineEditor) (terminal : String) (input : ByteArray) :
    run editor terminal input = runBy answer editor terminal input := by
  rcases starts : editor.refusal with - | message
  · simp only [run, runBy, starts]
    rw [converse_eq_converseBy]
  · simp only [run, runBy, starts]

/-- A session is the one that answers every line by its tokens exactly if it receives no
hidden line. -/
theorem run_eq_runBy_listTokens_iff (editor : LineEditor) (terminal : String)
    (input : ByteArray) :
    run editor terminal input = runBy listTokens editor terminal input
      ↔ ∀ line ∈ received editor input, ¬ Hidden line := by
  rw [run_eq_runBy]
  rcases starts : editor.refusal with - | message
  · have shown : (∀ line ∈ received editor input, ¬ Hidden line)
        ↔ ∀ line ∈ handed editor (LineEditor.lines input), answer line = listTokens line := by
      simp only [received, starts, answer_eq_listTokens_iff]
      rfl
    rw [shown, ← fst_converseBy_eq_iff answer_sublist_listTokens]
    simp only [runBy, starts]
    constructor
    · intro same
      have written := congrArg Outcome.stdout same
      rwa [Outcome.stdout_ending, Outcome.stdout_ending] at written
    · intro written
      rw [written, snd_converseBy_eq]
  · simp [runBy, received, starts]

end Session

/-- **A session shows the tokens of its lines unless one is hidden**, whatever the editor.
A line is answered by its tokens, and is taken for blank exactly when it has none, unless
it is hidden.  If it is, its tokens are not shown, and they are the illegal ones of its
characters that are no blanks. -/
theorem session_shows_tokens_iff (editor : LineEditor) (terminal : String) (input : ByteArray) :
    (Session.run editor terminal input = Session.runBy listTokens editor terminal input
        ↔ ∀ line ∈ Session.received editor input, ¬ Session.Hidden line)
      ∧ ∀ line,
        (Session.answer line = listTokens line ↔ ¬ Session.Hidden line)
          ∧ ((isBlankText line = true ↔ listTokens line = []) ↔ ¬ Session.Hidden line)
          ∧ (Session.Hidden line →
              Session.answer line = []
                ∧ listTokens line
                    = (withoutBlanks line.toList).map fun c =>
                        (Token.mk .illegal (String.singleton c)).display) := by
  refine ⟨Session.run_eq_runBy_listTokens_iff editor terminal input, ?_⟩
  intro line
  exact ⟨Session.answer_eq_listTokens_iff, Session.isBlankText_iff_listTokens_eq_nil,
    Session.Hidden.answer_eq⟩

/-- A line that is a no-break space is hidden: it is received, has a token, and is
answered by nothing. -/
theorem session_hides_noBreakSpace :
    Session.received .piped "\u00a0\n".toUTF8 = ["\u00a0"]
      ∧ Session.Hidden "\u00a0"
      ∧ isBlankText "\u00a0" = true
      ∧ listTokens "\u00a0" = ["\x7bType:ILLEGAL Literal:\u00a0\x7d"]
      ∧ Session.answer "\u00a0" ≠ listTokens "\u00a0"
      ∧ Session.run .piped "xterm" "\u00a0\n".toUTF8
          = { status := 0, stdout := "", stderr := "" } := by
  decide +kernel

end ScriptLexer
