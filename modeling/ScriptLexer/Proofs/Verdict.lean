/-
ScriptLexer/Proofs/Verdict.lean

A run ends well or fails by one diagnostic, and the arguments say what it looks at.

What a run fails by is told here without running it (`CommandLine.failure?`): too many
arguments by their number, a file by its first foreign character or the reason why it is no
text, a session by the answer of its editor that ends it.  A session comes to that answer
line by line, so this is an induction over the lines (`Session.snd_converse`); the other two
follow their definitions.  Together they say that a run is what it has written, ended by
that failure (`CommandLine.exists_run_eq_ending`), so it has no other way to end.

Which diagnostics there can be depends on the number of arguments (`Diagnostic.Befits`).
Among these the report on the error channel tells which one it is: the source is known from
the arguments, and the report tells the rest (`Diagnostic.Befits.eq_of_report_eq`).  What it
does not tell is the reason for which a line could not be read, which is not shown.
-/
import ScriptLexer.Proofs.FileRun

namespace ScriptLexer

/-! ### How a session breaks off -/

namespace Reading

/-- Whether a session ends with this answer of its editor. -/
def isLast : Reading → Bool
  | line _ => false
  | interrupted => false
  | closed => true
  | failed _ => true

/-- The reason that an answer gives for failing. -/
def reason? : Reading → Option String
  | line _ => none
  | interrupted => none
  | closed => none
  | failed message => some message

/-- The reason for which a session with these answers breaks off: that of the first one which
ends it. -/
def breakdown? (readings : List Reading) : Option String :=
  (readings.find? isLast).bind reason?

end Reading

namespace Session

/-- The reason for which a session breaks off: that of an editor that does not start, or of
the answer to a line. -/
def breakdown? (editor : LineEditor) (input : ByteArray) : Option String :=
  match editor.refusal with
  | some message => some message
  | none => Reading.breakdown? ((LineEditor.lines input).map editor.reading)

/-- A session is over with an answer that is the last one, and fails for its reason. -/
theorem turn_eq_ends {reading : Reading} (last : reading.isLast = true) :
    turn reading = .ends (reading.reason?.map failure) := by
  cases reading with
  | line _ | interrupted => cases last
  | closed | failed _ => rfl

theorem exists_turn_eq_goesOn {reading : Reading} (more : reading.isLast = false) :
    ∃ shown, turn reading = .goesOn shown := by
  cases reading with
  | line _ | interrupted => exact ⟨_, rfl⟩
  | closed | failed _ => cases more

/-- A conversation fails by the answer that ends it. -/
theorem snd_converse (editor : LineEditor) (prompting : String) (lines : List (List UInt8)) :
    (converse editor prompting "" lines).2
      = (Reading.breakdown? (lines.map editor.reading)).map failure := by
  -- after an answer that is not the last one, either side goes on with the other lines
  induction lines with
  | nil => rfl
  | cons bytes rest ih =>
    rw [List.map_cons, Reading.breakdown?]
    rcases last : (editor.reading bytes).isLast with - | -
    · obtain ⟨shown, turned⟩ := exists_turn_eq_goesOn last
      rw [converse_of_goesOn prompting turned, List.find?_cons_of_neg (by simp [last])]
      exact ih
    · rw [converse_of_ends prompting (turn_eq_ends last), List.find?_cons_of_pos last]
      rfl

theorem exists_run_eq_ending (editor : LineEditor) (terminal : String) (input : ByteArray) :
    ∃ stdout, run editor terminal input
      = Outcome.ending stdout ((breakdown? editor input).map failure) := by
  rcases starts : editor.refusal with - | message
  · simp only [run, breakdown?, starts]
    rw [← snd_converse editor (editor.prompting terminal prompt)]
    exact ⟨_, rfl⟩
  · simp only [run, breakdown?, starts]
    exact ⟨"", rfl⟩

end Session

namespace CommandLine

/-! ### What a run fails by -/

/-- What a run on a file fails by: the reason why the file is no text, or the first foreign
character of its text. -/
def sourceFailure? (read : FileReader) (path : String) : Option Diagnostic :=
  match read path >>= decodeText with
  | .ok text =>
    (foreignChars text.toList).head?.map fun c =>
      ⟨.illegalCharacter (String.singleton c), path⟩
  | .error failure => some ⟨.unreadableSource path failure.message, path⟩

/-- What a run fails by, if it fails. -/
def failure? (arguments : List String) (env : Environment) : Option Diagnostic :=
  match arguments with
  | [] => (Session.breakdown? env.editor env.stdin).map Session.failure
  | [path] => sourceFailure? env.read path
  | _ :: _ :: _ => some ⟨.incorrectArguments arguments.length, "monkey"⟩

theorem exists_runFile_eq_ending (read : FileReader) (path elapsed : String) :
    ∃ stdout, runFile read path elapsed = Outcome.ending stdout (sourceFailure? read path) := by
  rcases decoded : read path >>= decodeText with reason | text
  · refine ⟨"", ?_⟩
    simp only [runFile, lexFile, readSource, sourceFailure?, decoded]
    rfl
  · simp only [runFile, lexFile, readSource, sourceFailure?, decoded]
    rw [← Diagnostic.firstIllegal?_tokenize]
    exact ⟨_, rfl⟩

/-- A run is what it has written, ended by its failure. -/
theorem exists_run_eq_ending (arguments : List String) (env : Environment) (elapsed : String) :
    ∃ stdout, run arguments env elapsed = Outcome.ending stdout (failure? arguments env) := by
  match arguments with
  | [] => exact Session.exists_run_eq_ending env.editor env.terminal env.stdin
  | [path] => exact exists_runFile_eq_ending env.read path elapsed
  | _ :: _ :: _ => exact ⟨"", rfl⟩

end CommandLine

/-! ### The diagnostics of a number of arguments -/

namespace Diagnostic

/-- The diagnostics that a run with these arguments may fail by. -/
inductive Befits : List String → Diagnostic → Prop
  | line (message : String) : Befits [] ⟨.readlineFailure message, "repl"⟩
  | source (path message : String) : Befits [path] ⟨.unreadableSource path message, path⟩
  | character (path character : String) : Befits [path] ⟨.illegalCharacter character, path⟩
  | surplus (first second : String) (others : List String) :
      Befits (first :: second :: others)
        ⟨.incorrectArguments (first :: second :: others).length, "monkey"⟩

variable {arguments : List String} {d e : Diagnostic}

theorem befits_of_failure? {env : Environment}
    (fails : CommandLine.failure? arguments env = some d) : Befits arguments d := by
  match arguments with
  | [] =>
    obtain ⟨message, -, rfl⟩ := Option.map_eq_some_iff.mp fails
    exact .line message
  | [path] =>
    rw [CommandLine.failure?, CommandLine.sourceFailure?] at fails
    split at fails
    · obtain ⟨c, -, rfl⟩ := Option.map_eq_some_iff.mp fails
      exact .character path (String.singleton c)
    next reason _ =>
      obtain rfl := Option.some.inj fails
      exact .source path reason.message
  | first :: second :: others =>
    obtain rfl := Option.some.inj fails
    exact .surplus first second others

/-- The arguments are complained about exactly if there are too many. -/
theorem Befits.isIncorrect_iff (h : Befits arguments d) :
    (∃ received, d.fault = .incorrectArguments received) ↔ 2 ≤ arguments.length := by
  cases h with
  | surplus first second others => exact iff_of_true ⟨_, rfl⟩ (Nat.le_add_left 2 _)
  | _ =>
    refine iff_of_false ?_ (by simp)
    rintro ⟨received, other⟩
    cases other

/-- The arguments alone say what the source is. -/
theorem Befits.sourceName_eq (h : Befits arguments d) (h' : Befits arguments e) :
    d.sourceName = e.sourceName := by
  cases h with
  | line message => cases h' with | line reason => rfl
  | source path message => cases h' <;> rfl
  | character path character => cases h' <;> rfl
  | surplus first second others => cases h' with | surplus => rfl

/-- If there is an argument, what is shown says which diagnostic it is. -/
theorem Befits.eq_of_shown_eq (h : Befits arguments d) (h' : Befits arguments e)
    (nonempty : arguments ≠ []) (same : d.shown = e.shown) : d = e := by
  obtain ⟨name, rest⟩ := Prod.mk.inj same
  obtain ⟨tip, -⟩ := Prod.mk.inj rest
  cases h with
  | line message => exact absurd rfl nonempty
  | source path message =>
    cases h' with
    | source _ reason =>
      simp only [Fault.tip?, Option.some.injEq, String.append_right_inj] at tip
      rw [tip]
    | character _ other =>
      have apart : "UnreadableSource" ≠ "IllegalCharacter" := by decide
      exact absurd name apart
  | character path character =>
    cases h' with
    | source _ reason =>
      have apart : "IllegalCharacter" ≠ "UnreadableSource" := by decide
      exact absurd name apart
    | character _ other =>
      simp only [Fault.tip?, Option.some.injEq, String.append_right_inj,
        String.append_left_inj] at tip
      rw [tip]
  | surplus first second others => cases h' with | surplus => rfl

/-- **The report says which diagnostic it is**, as far as it shows one. -/
theorem Befits.eq_of_report_eq (h : Befits arguments d) (h' : Befits arguments e)
    (same : d.report = e.report) : d.shown = e.shown ∧ (arguments ≠ [] → d = e) := by
  have shown := shown_eq_of_report_eq (h.sourceName_eq h') same
  exact ⟨shown, fun nonempty => h.eq_of_shown_eq h' nonempty shown⟩

end Diagnostic

/-! ### Every run -/

open CommandLine

/-- A run with these arguments that fails by the diagnostic, and by no other. -/
structure FailsBy (arguments : List String) (d : Diagnostic) (outcome : Outcome) : Prop where
  status_eq : outcome.status = 1
  /-- The report of the diagnostic is all that is written on the error channel. -/
  stderr_eq : outcome.stderr = d.report ++ "\n"
  befits : d.Befits arguments
  isIncorrect_iff : (∃ received, d.fault = .incorrectArguments received) ↔ 2 ≤ arguments.length
  /-- It is not the report of another one. -/
  unique : ∀ e : Diagnostic, e.Befits arguments → outcome.stderr = e.report ++ "\n" →
    d.shown = e.shown ∧ (arguments ≠ [] → d = e)

theorem failsBy_run {arguments : List String} {env : Environment} {d : Diagnostic}
    (fails : failure? arguments env = some d) (elapsed : String) :
    FailsBy arguments d (run arguments env elapsed) := by
  obtain ⟨stdout, ended⟩ := exists_run_eq_ending arguments env elapsed
  have befits := Diagnostic.befits_of_failure? fails
  rw [ended, fails]
  refine ⟨rfl, rfl, befits, befits.isIncorrect_iff, ?_⟩
  intro e befits' same
  exact befits.eq_of_report_eq befits' ((String.append_left_inj _).mp same)

/-- What a run does not depend on, by the number of its arguments. -/
structure Isolated (arguments : List String) (env : Environment) (elapsed : String) : Prop where
  /-- A session does not depend on files, nor on the clock. -/
  session : arguments = [] → ∀ read later,
    run arguments { env with read := read } later = run arguments env elapsed
  /-- A run on a file depends on what is found at its path, and on nothing else around it. -/
  file : ∀ path, arguments = [path] → ∀ other : Environment, other.read path = env.read path →
    run arguments other elapsed = run arguments env elapsed
  /-- A run with too many arguments writes a complaint, and depends on how many there are. -/
  surplus : 2 ≤ arguments.length →
    run arguments env elapsed
        = { status := 1, stdout := "",
            stderr := Diagnostic.report ⟨.incorrectArguments arguments.length, "monkey"⟩ ++ "\n" }
      ∧ ∀ others other later, others.length = arguments.length →
          run others other later = run arguments env elapsed

/-- With too many arguments, their number says it all. -/
theorem run_of_surplus {arguments : List String} (many : 2 ≤ arguments.length)
    (env : Environment) (elapsed : String) :
    run arguments env elapsed
      = { status := 1, stdout := "",
          stderr := Diagnostic.report ⟨.incorrectArguments arguments.length, "monkey"⟩ ++ "\n" } := by
  match arguments with
  | [] => cases many
  | [path] => exact absurd many (by simp)
  | _ :: _ :: _ => rfl

theorem runFile_eq_of_read_eq {read other : FileReader} {path : String}
    (same : other path = read path) (elapsed : String) :
    runFile other path elapsed = runFile read path elapsed := by
  simp only [runFile, lexFile, readSource, same]

theorem isolated (arguments : List String) (env : Environment) (elapsed : String) :
    Isolated arguments env elapsed where
  session := by
    rintro rfl read later
    rfl
  file := by
    rintro path rfl other same
    exact runFile_eq_of_read_eq same elapsed
  surplus := by
    intro many
    refine ⟨run_of_surplus many env elapsed, ?_⟩
    intro others other later count
    rw [run_of_surplus many, run_of_surplus (count ▸ many), count]

/-- **A run ends well or fails by one diagnostic.**  It ends well if there is nothing to
fail by, and then it writes nothing on the error channel.  Otherwise all that it writes there
is the report of one diagnostic, which is one for this number of arguments.  What else the
run depends on is decided by that number as well. -/
theorem run_fails_by_one_diagnostic (arguments : List String) (env : Environment)
    (elapsed : String) :
    ((failure? arguments env = none
          ∧ (run arguments env elapsed).status = 0 ∧ (run arguments env elapsed).stderr = "")
        ∨ ∃ d, failure? arguments env = some d ∧ FailsBy arguments d (run arguments env elapsed))
      ∧ Isolated arguments env elapsed := by
  refine ⟨?_, isolated arguments env elapsed⟩
  rcases fails : failure? arguments env with - | d
  · obtain ⟨stdout, ended⟩ := exists_run_eq_ending arguments env elapsed
    rw [ended, fails]
    exact .inl ⟨rfl, rfl, rfl⟩
  · exact .inr ⟨d, rfl, failsBy_run fails elapsed⟩

/-- A file with an illegal character, an input that is no text, and a terminal that is
prompted: which of them counts depends on the number of arguments. -/
theorem run_fails_by_one_diagnostic_of_three :
    let env : Environment :=
      { read := (FileTree.arrange ["d"] [("d/m", "a @\n".toUTF8)]).read
        stdin := ⟨#[64, 10, 255]⟩, terminal := "dumb" }
    let elsewhere : Environment :=
      { read := FileTree.empty.read, stdin := .empty, terminal := "xterm" }
    failure? ["d/m"] env = some ⟨.illegalCharacter "@", "d/m"⟩
      ∧ FailsBy ["d/m"] ⟨.illegalCharacter "@", "d/m"⟩ (run ["d/m"] env "1s")
      ∧ run ["d/m"] { elsewhere with read := env.read } "1s" = run ["d/m"] env "1s"
      ∧ FailsBy [] ⟨.readlineFailure "stream did not contain valid UTF-8", "repl"⟩
          (run [] env "1s")
      ∧ run [] { env with read := elsewhere.read } "2s" = run [] env "1s"
      ∧ run ["d/m", "x"] env "1s"
          = { status := 1, stdout := "",
              stderr := "Error: IncorrectArguments (Expected at most 1 argument, received 2)\n"
                ++ "-> monkey\n" }
      ∧ run ["", "-h"] elsewhere "2s" = run ["d/m", "x"] env "1s" := by
  intro env elsewhere
  obtain ⟨ends, file⟩ := run_fails_by_one_diagnostic ["d/m"] env "1s"
  obtain ⟨ends', session⟩ := run_fails_by_one_diagnostic [] env "1s"
  obtain ⟨-, surplus⟩ := run_fails_by_one_diagnostic ["d/m", "x"] env "1s"
  have illegal : failure? ["d/m"] env = some ⟨.illegalCharacter "@", "d/m"⟩ := by decide +kernel
  have broken : failure? [] env
      = some ⟨.readlineFailure "stream did not contain valid UTF-8", "repl"⟩ := by decide +kernel
  obtain ⟨complaint, alike⟩ := surplus.surplus (by decide)
  refine ⟨illegal, ?_, file.file "d/m" rfl _ rfl, ?_, session.session rfl _ "2s", ?_,
    alike ["", "-h"] elsewhere "2s" rfl⟩
  · rcases ends with ⟨well, -⟩ | ⟨d, fails, failed⟩
    · cases illegal.symm.trans well
    · obtain rfl := Option.some.inj (illegal.symm.trans fails)
      exact failed
  · rcases ends' with ⟨well, -⟩ | ⟨d, fails, failed⟩
    · cases broken.symm.trans well
    · obtain rfl := Option.some.inj (broken.symm.trans fails)
      exact failed
  · rw [complaint]
    decide

end ScriptLexer
