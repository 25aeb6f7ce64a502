/-
ScriptLexer/Proofs/Sessions.lean

Sessions go on line by line, and end early at a line that is no text.

A session keeps nothing from one line to the next.  So a session on some lines and then
more is the session on the lines, less the prompt of its last read, and then the
session on what is left (`Session.exists_run_append`).  All that can end a session early
is a line that its editor refuses, and the bytes that an editor refuses are those that
encode no text.  Every input that encodes no text has a first such line, which stands
behind lines that do (`exists_breaksOff`): the line feed is a byte by itself, so an
input is a text if its lines are.

The editor may be any that has no user to ask: it hands on what encodes a text and
refuses everything else (`LineEditor.Unattended`).  What it makes of the text of a line,
as to backspaces for instance, is left to it.  The editor of an input that is no
terminal is one of them (`LineEditor.unattended_piped`).
-/
import ScriptLexer.CommandLine
import ScriptLexer.Proofs.Lines
import ScriptLexer.Proofs.Listing

namespace ScriptLexer

/-! ### Editors without a user -/

namespace LineEditor

/-- An editor that goes by the bytes of a line alone: it hands on some text for those
that encode one, and refuses the others.  It prompts on a terminal that cannot edit. -/
structure Unattended (editor : LineEditor) : Prop where
  starts : editor.refusal = none
  quiet : editor.prompting "xterm" Session.prompt = ""
  prompts : editor.prompting "dumb" Session.prompt = Session.prompt
  hands_on : ∀ line, line ≠ [] → '\n' ∉ line.dropLast →
    ∃ text, editor.reading (encoded line) = .line text
  refuses : ∀ bytes, lineFeed ∉ bytes.dropLast → (∀ text, bytes ≠ encoded text) →
    ∃ message, editor.reading bytes = .failed message

/-- The editor of an input that is no terminal has no user. -/
theorem unattended_piped : piped.Unattended where
  starts := rfl
  quiet := by decide +kernel
  prompts := by decide +kernel
  hands_on := by
    intro line _ _
    exact ⟨_, readLine_encoded line⟩
  refuses := by
    intro bytes _ never
    rcases decoded : decodeText ⟨bytes.toArray⟩ with failure | text
    · refine ⟨failure.message, ?_⟩
      show readLine bytes = _
      rw [readLine, decoded]
    · exact absurd (decodeText_mk_toArray_iff.mp decoded) (never text.toList)

/-- Behind whole lines the lines are cut as if nothing stood before. -/
theorem linesOf_linesText_append (lines : List String) (rest : List UInt8) :
    linesOf (encoded (linesText lines).toList ++ rest)
      = linesOf (encoded (linesText lines).toList) ++ linesOf rest := by
  rcases List.eq_nil_or_concat lines with rfl | ⟨front, line, rfl⟩
  · rfl
  · have ended : ∃ text, (linesText (front.concat line)).toList = text ++ ['\n'] := by
      rw [List.concat_eq_append, linesText_append, String.toList_append, toList_linesText [line],
        List.flatMap_singleton, ← List.append_assoc]
      exact ⟨_, rfl⟩
    obtain ⟨text, same⟩ := ended
    rw [same, encoded_append, encoded_lineFeed, List.append_assoc, List.singleton_append,
      linesOf_append_of_ended]

end LineEditor

/-! ### Bytes that encode no text -/

open LineEditor (lineFeed encoded encoded_append_cons linesOf)

/-- Bytes that break off: behind lines that are text stands one that is none.  It is
taken without its line feed, which the rest begins with. -/
structure BreaksOff (bytes : List UInt8) (lines : List String) (bad rest : List UInt8) :
    Prop where
  bytes_eq : bytes = encoded (linesText lines).toList ++ (bad ++ rest)
  single : lineFeed ∉ bad
  ended : ∀ byte ∈ rest.head?, byte = lineFeed
  undecodable : ∀ text, bad ≠ encoded text

/-- A line of text in front changes nothing about where bytes break off. -/
theorem BreaksOff.cons {bytes bad rest : List UInt8} {lines : List String}
    (h : BreaksOff bytes lines bad rest) (line : List Char) :
    BreaksOff (encoded line ++ lineFeed :: bytes) (String.ofList line :: lines) bad rest where
  bytes_eq := by
    have whole : (linesText (String.ofList line :: lines)).toList
        = line ++ '\n' :: (linesText lines).toList := by
      simp only [toList_linesText, List.flatMap_cons, String.toList_ofList, List.append_assoc,
        List.singleton_append]
    rw [whole, encoded_append_cons, h.bytes_eq, List.append_assoc, List.cons_append]
  single := h.single
  ended := h.ended
  undecodable := h.undecodable

/-- Bytes that encode no text break off somewhere. -/
theorem exists_breaksOff {bytes : List UInt8} (never : ∀ text, bytes ≠ encoded text) :
    ∃ lines bad rest, BreaksOff bytes lines bad rest := by
  induction bytes using bySeparator lineFeed with
  | last line single =>
    refine ⟨[], line, [], ?_, single, ?_, never⟩
    · rw [List.append_nil]
      rfl
    · intro byte never
      cases never
  | more line bytes single ih =>
    by_cases decodes : ∃ text, line = encoded text
    · obtain ⟨text, rfl⟩ := decodes
      have later : ∀ rest, bytes ≠ encoded rest := by
        rintro rest rfl
        exact never (text ++ '\n' :: rest) (encoded_append_cons text rest).symm
      obtain ⟨lines, bad, rest, broken⟩ := ih later
      exact ⟨_, bad, rest, broken.cons text⟩
    · rw [not_exists] at decodes
      refine ⟨[], line, lineFeed :: bytes, rfl, single, ?_, decodes⟩
      intro byte mem
      exact (Option.mem_some.mp mem).symm

theorem exists_breaksOff_of_not_text {input : ByteArray}
    (never : ¬ ∃ text : String, input = text.toUTF8) :
    ∃ lines bad rest, BreaksOff input.data.toList lines bad rest := by
  apply exists_breaksOff
  intro text same
  refine never ⟨String.ofList text, LineEditor.eq_toUTF8_iff.mpr ?_⟩
  rw [String.toList_ofList, same]

/-- Where bytes break off an editor without a user refuses the next line. -/
theorem BreaksOff.exists_refused {editor : LineEditor} (unattended : editor.Unattended)
    {bytes bad rest : List UInt8} {lines : List String} (h : BreaksOff bytes lines bad rest) :
    ∃ first others message, linesOf (bad ++ rest) = first :: others
      ∧ editor.reading first = .failed message := by
  rcases rest with - | ⟨byte, rest⟩
  · have within : lineFeed ∉ bad.dropLast := fun mem => h.single (List.dropLast_subset _ mem)
    obtain ⟨message, failed⟩ := unattended.refuses bad within h.undecodable
    have nonempty : bad ≠ [] := h.undecodable []
    refine ⟨bad, [], message, ?_, failed⟩
    rw [List.append_nil, LineEditor.linesOf_last h.single, if_neg nonempty]
  · obtain rfl : byte = lineFeed := h.ended byte rfl
    have within : lineFeed ∉ (bad ++ [lineFeed]).dropLast := by
      rw [List.dropLast_concat]
      exact h.single
    have never : ∀ text, bad ++ [lineFeed] ≠ encoded text := by
      intro text same
      obtain ⟨front, decodes⟩ := LineEditor.exists_encoded_of_append_lineFeed same
      exact h.undecodable front decodes
    obtain ⟨message, failed⟩ := unattended.refuses _ within never
    exact ⟨_, linesOf rest, message, LineEditor.linesOf_append h.single rest, failed⟩

/-! ### Conversations -/

namespace Session

variable {editor : LineEditor}

/-- When it has been handed lines, a session goes on with those behind them. -/
theorem exists_converse_append (prompting : String) {front : List (List UInt8)}
    (handed : ∀ bytes ∈ front, ∃ text, editor.reading bytes = .line text) :
    ∃ shown, ∀ back, converse editor prompting "" (front ++ back)
      = (shown ++ (converse editor prompting "" back).1,
          (converse editor prompting "" back).2) := by
  induction front with
  | nil => exact ⟨"", fun back => by simp⟩
  | cons bytes front ih =>
    obtain ⟨⟨text, first⟩, later⟩ := List.forall_mem_cons.mp handed
    obtain ⟨shown, goesOn⟩ := ih later
    refine ⟨prompting ++ linesText (answer text) ++ shown, ?_⟩
    intro back
    rw [List.cons_append, converse_of_goesOn prompting (congrArg turn first), goesOn]
    simp only [String.append_assoc]

/-- The lines of an encoded text are handed on. -/
theorem handed_of_mem_linesOf_encoded (unattended : editor.Unattended) (text : List Char) :
    ∀ bytes ∈ linesOf (encoded text), ∃ line, editor.reading bytes = .line line := by
  intro bytes mem
  obtain ⟨line, rfl, nonempty, single⟩ := LineEditor.exists_of_mem_linesOf_encoded bytes mem
  exact unattended.hands_on line nonempty single

/-- A conversation on whole lines of text and then more. -/
theorem exists_converse_linesText (unattended : editor.Unattended) (prompting : String)
    (lines : List String) :
    ∃ shown, ∀ rest,
      converse editor prompting "" (linesOf (encoded (linesText lines).toList ++ rest))
        = (shown ++ (converse editor prompting "" (linesOf rest)).1,
            (converse editor prompting "" (linesOf rest)).2) := by
  obtain ⟨shown, goesOn⟩ := exists_converse_append prompting
    (handed_of_mem_linesOf_encoded unattended (linesText lines).toList)
  refine ⟨shown, ?_⟩
  intro rest
  rw [LineEditor.linesOf_linesText_append, goesOn]

/-- A conversation on a text comes to its end. -/
theorem converse_encoded_snd (unattended : editor.Unattended) (prompting : String)
    (text : List Char) : (converse editor prompting "" (linesOf (encoded text))).2 = none := by
  obtain ⟨shown, goesOn⟩ := exists_converse_append prompting
    (handed_of_mem_linesOf_encoded unattended text)
  have whole := goesOn []
  rw [List.append_nil] at whole
  rw [whole]
  rfl

/-! ### Sessions -/

theorem run_eq (unattended : editor.Unattended) (terminal : String) (input : ByteArray) :
    run editor terminal input
      = Outcome.ending
          (converse editor (editor.prompting terminal prompt) "" (linesOf input.data.toList)).1
          (converse editor (editor.prompting terminal prompt) "" (linesOf input.data.toList)).2 := by
  rw [run, unattended.starts, LineEditor.lines_eq]

/-- A session on nothing prompts once. -/
theorem run_empty (unattended : editor.Unattended) (terminal : String) :
    run editor terminal .empty
      = { status := 0, stdout := editor.prompting terminal prompt, stderr := "" } := by
  rw [run_eq unattended]
  show Outcome.ending ("" ++ editor.prompting terminal prompt) none = _
  rw [String.empty_append]
  rfl

/-- A session whose first line is refused has prompted once. -/
theorem run_of_refused (unattended : editor.Unattended) (terminal : String) {input : ByteArray}
    {first : List UInt8} {others : List (List UInt8)} {message : String}
    (cut : linesOf input.data.toList = first :: others)
    (failed : editor.reading first = .failed message) :
    run editor terminal input
      = { status := 1, stdout := editor.prompting terminal prompt,
          stderr := "Error: ReadlineFailure\n-> repl\n" } := by
  rw [run_eq unattended, cut, converse_of_ends _ (congrArg turn failed)]
  have report : (failure message).report ++ "\n" = "Error: ReadlineFailure\n-> repl\n" := by
    simp only [Diagnostic.report, Diagnostic.headline, failure, Fault.tip?, Fault.name, sourceName]
    decide
  rw [Outcome.ending, report]

/-- A session on lines and then more shows what it shows of the lines, all but the last
prompt, and is then the session on what is left. -/
theorem exists_run_append (unattended : editor.Unattended) (terminal : String)
    (lines : List String) :
    ∃ shown, (run editor terminal (linesText lines).toUTF8).stdout
          = shown ++ editor.prompting terminal prompt
      ∧ ∀ rest, run editor terminal ((linesText lines).toUTF8 ++ rest)
          = (run editor terminal rest).after shown := by
  obtain ⟨shown, goesOn⟩ := exists_converse_linesText unattended (editor.prompting terminal prompt)
    lines
  have runs (rest : ByteArray) : run editor terminal ((linesText lines).toUTF8 ++ rest)
      = (run editor terminal rest).after shown := by
    rw [run_eq unattended, run_eq unattended, ByteArray.toList_data_append,
      LineEditor.toList_data_toUTF8, goesOn, Outcome.ending_append]
  refine ⟨shown, ?_, runs⟩
  have alone := runs .empty
  rw [ByteArray.append_empty, run_empty unattended] at alone
  rw [alone, Outcome.stdout_after]

/-- A session on a text ends well. -/
theorem run_toUTF8 (unattended : editor.Unattended) (terminal text : String) :
    (run editor terminal text.toUTF8).status = 0 ∧ (run editor terminal text.toUTF8).stderr = "" := by
  rw [run_eq unattended, LineEditor.toList_data_toUTF8, converse_encoded_snd unattended]
  exact ⟨rfl, rfl⟩

/-- A session on bytes that break off fails, and shows what it shows of the lines
before. -/
theorem run_of_breaksOff (unattended : editor.Unattended) (terminal : String) {input : ByteArray}
    {lines : List String} {bad rest : List UInt8}
    (broken : BreaksOff input.data.toList lines bad rest) :
    run editor terminal input
      = { status := 1, stdout := (run editor terminal (linesText lines).toUTF8).stdout,
          stderr := "Error: ReadlineFailure\n-> repl\n" } := by
  obtain ⟨shown, alone, runs⟩ := exists_run_append unattended terminal lines
  obtain ⟨first, others, message, cut, failed⟩ := broken.exists_refused unattended
  have whole : input = (linesText lines).toUTF8 ++ ⟨(bad ++ rest).toArray⟩ := by
    apply ByteArray.ext
    rw [← Array.toList_inj, broken.bytes_eq, ByteArray.toList_data_append,
      LineEditor.toList_data_toUTF8]
  rw [whole, runs, run_of_refused unattended terminal cut failed, alone]
  rfl

/-- A session ends well exactly if its input is a text. -/
theorem run_ends_well_iff (unattended : editor.Unattended) {terminal : String}
    {input : ByteArray} :
    (run editor terminal input).status = 0 ∧ (run editor terminal input).stderr = ""
      ↔ ∃ text : String, input = text.toUTF8 := by
  constructor
  · rintro ⟨well, -⟩
    apply Classical.byContradiction
    intro never
    obtain ⟨lines, bad, rest, broken⟩ := exists_breaksOff_of_not_text never
    rw [run_of_breaksOff unattended terminal broken] at well
    cases well
  · rintro ⟨text, rfl⟩
    exact run_toUTF8 unattended terminal text

/-- Sessions on two inputs one after the other, against sessions on the two apart. -/
structure Resumes (session : String → ByteArray → Outcome) (front rest : ByteArray) : Prop where
  status_eq : ∀ terminal, (session terminal (front ++ rest)).status = (session terminal rest).status
  stderr_eq : ∀ terminal, (session terminal (front ++ rest)).stderr = (session terminal rest).stderr
  /-- Without prompts the outputs follow each other. -/
  stdout_eq : (session "xterm" (front ++ rest)).stdout
    = (session "xterm" front).stdout ++ (session "xterm" rest).stdout
  /-- With prompts the last prompt of the first is left out. -/
  prompted_eq : ∃ shown, (session "dumb" front).stdout = shown ++ prompt
    ∧ (session "dumb" (front ++ rest)).stdout = shown ++ (session "dumb" rest).stdout

theorem resumes_run (unattended : editor.Unattended) (lines : List String) (rest : ByteArray) :
    Resumes (run editor) (linesText lines).toUTF8 rest where
  status_eq := by
    intro terminal
    obtain ⟨shown, -, runs⟩ := exists_run_append unattended terminal lines
    rw [runs, Outcome.status_after]
  stderr_eq := by
    intro terminal
    obtain ⟨shown, -, runs⟩ := exists_run_append unattended terminal lines
    rw [runs, Outcome.stderr_after]
  stdout_eq := by
    obtain ⟨shown, alone, runs⟩ := exists_run_append unattended "xterm" lines
    rw [unattended.quiet, String.append_empty] at alone
    rw [runs, Outcome.stdout_after, alone]
  prompted_eq := by
    obtain ⟨shown, alone, runs⟩ := exists_run_append unattended "dumb" lines
    rw [unattended.prompts] at alone
    exact ⟨shown, alone, by rw [runs, Outcome.stdout_after]⟩

end Session

/-! ### The program without arguments -/

/-- The program without arguments, for a terminal and an input. -/
def sessionOn (env : Environment) (elapsed terminal : String) (input : ByteArray) : Outcome :=
  CommandLine.run [] { env with terminal := terminal, stdin := input } elapsed

/-- **Sessions go on line by line.**  Behind whole lines of text, whatever characters
they hold, a session is as it is without them.  It ends well exactly if its input is a
text.  Any other input breaks off at a first line that is no text, and there the session
fails, having written what it writes on the lines before. -/
theorem sessions_go_on_line_by_line (env : Environment) (unattended : env.editor.Unattended)
    (elapsed : String) :
    (∀ lines rest, Session.Resumes (sessionOn env elapsed) (linesText lines).toUTF8 rest)
      ∧ ∀ terminal input,
        ((sessionOn env elapsed terminal input).status = 0
            ∧ (sessionOn env elapsed terminal input).stderr = ""
          ↔ ∃ text : String, input = text.toUTF8)
        ∧ ((¬ ∃ text : String, input = text.toUTF8) →
            ∃ lines bad rest, BreaksOff input.data.toList lines bad rest)
        ∧ ∀ lines bad rest, BreaksOff input.data.toList lines bad rest →
            sessionOn env elapsed terminal input
              = { status := 1,
                  stdout := (sessionOn env elapsed terminal (linesText lines).toUTF8).stdout,
                  stderr := "Error: ReadlineFailure\n-> repl\n" } := by
  refine ⟨Session.resumes_run unattended, ?_⟩
  intro terminal input
  refine ⟨Session.run_ends_well_iff unattended, exists_breaksOff_of_not_text, ?_⟩
  intro lines bad rest broken
  exact Session.run_of_breaksOff unattended terminal broken

/-- An illegal character does not end a session.  A byte that is in no text does, and
what follows it is not read. -/
theorem sessions_go_on_line_by_line_of_illegal :
    LineEditor.piped.Unattended
      ∧ (sessionOn { read := fun _ => .error .notFound, stdin := .empty, terminal := "" } "1s"
          "dumb" ⟨#[97, 32, 64, 10, 98, 255, 10, 99]⟩)
        = { status := 1,
            stdout := ">> \x7bType:IDENT Literal:a\x7d\n\x7bType:ILLEGAL Literal:@\x7d\n>> ",
            stderr := "Error: ReadlineFailure\n-> repl\n" }
      ∧ (sessionOn { read := fun _ => .error .notFound, stdin := .empty, terminal := "" } "1s"
          "xterm" ((linesText ["a @"]).toUTF8 ++ ⟨#[59]⟩)).stdout
        = "\x7bType:IDENT Literal:a\x7d\n\x7bType:ILLEGAL Literal:@\x7d\n"
            ++ "\x7bType:SEMICOLON Literal:;\x7d\n" := by
  obtain ⟨resumes, runs⟩ := sessions_go_on_line_by_line
    { read := fun _ => .error .notFound, stdin := .empty, terminal := "" }
    LineEditor.unattended_piped "1s"
  refine ⟨LineEditor.unattended_piped, ?_, ?_⟩
  · obtain ⟨-, -, fails⟩ := runs "dumb" ⟨#[97, 32, 64, 10, 98, 255, 10, 99]⟩
    have broken : BreaksOff [97, 32, 64, 10, 98, 255, 10, 99] ["a @"] [98, 255] [10, 99] := by
      refine ⟨by decide, by decide, ?_, ?_⟩
      · intro byte mem
        exact (Option.mem_some.mp mem).symm
      · intro text same
        rw [← String.toList_ofList (l := text), ← LineEditor.decodeText_mk_toArray_iff] at same
        have refused : decodeText ⟨#[98, 255]⟩ = .error .notUtf8 := rfl
        cases refused.symm.trans same
    rw [fails _ _ _ broken]
    decide +kernel
  · rw [(resumes ["a @"] ⟨#[59]⟩).stdout_eq]
    decide +kernel

end ScriptLexer
