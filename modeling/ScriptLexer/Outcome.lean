/-
ScriptLexer/Outcome.lean

What a run of the program comes to: the texts on its two channels and its exit
status.  A run fails by a diagnostic, and that is the only way to write to the
error channel: its report, on a line of its own, and the status 1.
-/
import ScriptLexer.Diagnostic.Basic

namespace ScriptLexer

/-! ### Outcomes -/

/-- The end of a run. -/
structure Outcome where
  /-- The exit status. -/
  status : Nat
  /-- What was written to the output. -/
  stdout : String
  /-- What was written to the error channel. -/
  stderr : String
  deriving DecidableEq, Repr

namespace Outcome

/-- A run that has written `stdout` and fails by the diagnostic, if there is one. -/
def ending (stdout : String) : Option Diagnostic → Outcome
  | none => { status := 0, stdout := stdout, stderr := "" }
  | some d => { status := 1, stdout := stdout, stderr := d.report ++ "\n" }

/-- A failure takes nothing back of what was written. -/
@[simp] theorem stdout_ending (stdout : String) (failure : Option Diagnostic) :
    (ending stdout failure).stdout = stdout := by
  cases failure <;> rfl

/-- A run with a text written before all that it writes. -/
def after (shown : String) (outcome : Outcome) : Outcome :=
  { outcome with stdout := shown ++ outcome.stdout }

@[simp] theorem status_after (shown : String) (outcome : Outcome) :
    (outcome.after shown).status = outcome.status := rfl

@[simp] theorem stdout_after (shown : String) (outcome : Outcome) :
    (outcome.after shown).stdout = shown ++ outcome.stdout := rfl

@[simp] theorem stderr_after (shown : String) (outcome : Outcome) :
    (outcome.after shown).stderr = outcome.stderr := rfl

theorem ending_append (shown stdout : String) (failure : Option Diagnostic) :
    ending (shown ++ stdout) failure = (ending stdout failure).after shown := by
  cases failure <;> rfl

end Outcome

/-- The text of lines, each with a line feed after it. -/
def linesText (lines : List String) : String :=
  String.join (lines.map (· ++ "\n"))

theorem linesText_append (front back : List String) :
    linesText (front ++ back) = linesText front ++ linesText back := by
  simp [linesText]

end ScriptLexer
