/-
ScriptLexer/Proofs/Reports.lean

A report of an illegal character cannot be mistaken for another.

A report shows the character and the name of the source as they are, with nothing around
them that could not be in them as well.  For diagnostics as such, two reports can be the
same (see the example at the end).  For the diagnostics of texts they cannot, because of
what the lexer makes illegal: a single character, and no line feed, which is a blank.  So
the character stands at a fixed place in the report and takes up one place
(`Diagnostic.report_illegal_inj`), the name is all that stands behind the frame, and the
first line ends in front of the name (`Diagnostic.lines_report_illegal`).

When the name of the source is known, this is true of diagnostics as such: the name of a
fault ends where its letters end, and what stands behind it is the tip
(`Diagnostic.shown_eq_of_report_eq`).
-/
import ScriptLexer.Proofs.Foreign

namespace ScriptLexer

/-- The name of a fault is made of letters. -/
theorem Fault.all_isLetter_name (f : Fault) : f.name.toList.all isLetter = true := by
  have key : ∀ x ∈ ["IllegalCharacter", "UnreadableSource", "ReadlineFailure",
      "IncorrectArguments"], x.toList.all isLetter = true := by decide
  exact key f.name (by cases f <;> simp [name])

namespace Diagnostic

/-! ### The lines of a report -/

theorem toList_report (d : Diagnostic) :
    d.report.toList = d.headline.toList ++ '\n' :: ("-> " ++ d.sourceName).toList := by
  have feed : "\n-> ".toList = ['\n'] ++ "-> ".toList := by decide
  rw [report, String.toList_append, String.toList_append, feed, String.toList_append,
    List.append_assoc, List.append_assoc, List.singleton_append]

theorem headline_illegalCharacter (character sourceName : String) :
    headline ⟨.illegalCharacter character, sourceName⟩
      = "Error: IllegalCharacter (Unrecognised character `" ++ character ++ "`)" := by
  -- the text is put together from pieces that other reports share
  have opening : "Error: IllegalCharacter (Unrecognised character `"
      = "Error: " ++ "IllegalCharacter" ++ " (" ++ "Unrecognised character `" := by decide
  have closing : "`)" = "`" ++ ")" := by decide
  simp only [headline, Fault.tip?, Fault.name, opening, closing, String.append_assoc]

theorem report_illegalCharacter (character sourceName : String) :
    report ⟨.illegalCharacter character, sourceName⟩
      = "Error: IllegalCharacter (Unrecognised character `" ++ character ++ "`)\n-> "
          ++ sourceName := by
  have closing : "`)\n-> " = "`)" ++ "\n-> " := by decide
  rw [report, headline_illegalCharacter, closing]
  simp only [String.append_assoc]

/-! ### What a report shows -/

/-- What a user sees of a diagnostic: name and tip of the fault, and the source. -/
def shown (d : Diagnostic) : String × Option String × String :=
  (d.fault.name, d.fault.tip?, d.sourceName)

/-- What stands behind the name of a fault. -/
def bracketed : Option String → String
  | some tip => " (" ++ tip ++ ")"
  | none => ""

theorem bracketed_injective {a b : Option String} (same : bracketed a = bracketed b) : a = b := by
  have filled (tip : String) : bracketed (some tip) ≠ "" := by
    intro empty
    have chars := congrArg String.toList empty
    simp [bracketed] at chars
  rcases a with - | tip
  · rcases b with - | other
    · rfl
    · exact absurd same.symm (filled other)
  · rcases b with - | other
    · exact absurd same (filled tip)
    · rw [bracketed, bracketed, String.append_left_inj, String.append_right_inj] at same
      rw [same]

theorem headline_eq (d : Diagnostic) :
    d.headline = "Error: " ++ (d.fault.name ++ bracketed d.fault.tip?) := by
  rcases tip : d.fault.tip? with - | text
  · simp only [headline, tip, bracketed, String.append_empty]
  · simp only [headline, tip, bracketed, String.append_assoc]

/-- A name ends where the letters end, so it can be told from what stands behind it. -/
theorem headline_inj {d e : Diagnostic} (same : d.headline = e.headline) :
    d.fault.name = e.fault.name ∧ d.fault.tip? = e.fault.tip? := by
  have stops (tip : Option String) : (bracketed tip).toList.head?.any isLetter = false := by
    rcases tip with - | text
    · rfl
    · have opens : " (".toList = [' ', '('] := by decide
      simp only [bracketed, String.toList_append, opens]
      rfl
  rw [headline_eq, headline_eq, String.append_right_inj, ← String.toList_inj,
    String.toList_append, String.toList_append] at same
  obtain ⟨names, tips⟩ := append_inj_of_stops d.fault.all_isLetter_name (stops _)
    e.fault.all_isLetter_name (stops _) same
  exact ⟨String.toList_inj.mp names, bracketed_injective (String.toList_inj.mp tips)⟩

/-- **With the source known, a report tells all that it shows.** -/
theorem shown_eq_of_report_eq {d e : Diagnostic} (source : d.sourceName = e.sourceName)
    (same : d.report = e.report) : d.shown = e.shown := by
  rw [report, report, source, String.append_left_inj, String.append_left_inj] at same
  obtain ⟨name, tip⟩ := headline_inj same
  rw [shown, shown, name, tip, source]

/-! ### The report of one character -/

/-- The character and the name can be told from the report. -/
theorem report_illegal_inj {c d : Char} {name elsewhere : String} :
    (Diagnostic.mk (.illegalCharacter (String.singleton c)) name).report
        = (Diagnostic.mk (.illegalCharacter (String.singleton d)) elsewhere).report
      ↔ c = d ∧ name = elsewhere := by
  constructor
  · intro same
    have chars := congrArg String.toList same
    simp only [report_illegalCharacter, String.toList_append, String.toList_singleton,
      List.append_assoc, List.append_right_inj] at chars
    obtain ⟨characters, behind⟩ := List.append_inj chars rfl
    rw [List.append_right_inj, String.toList_inj] at behind
    exact ⟨List.singleton_inj.mp characters, behind⟩
  · rintro ⟨rfl, rfl⟩
    rfl

/-- Without a line feed in what it shows, a report has two lines. -/
theorem lines_report_illegal {c : Char} {name : String} (feed : c ≠ '\n')
    (single : '\n' ∉ name.toList) :
    (Diagnostic.mk (.illegalCharacter (String.singleton c)) name).report.toList.count '\n' = 1
      ∧ (Diagnostic.mk (.illegalCharacter (String.singleton c)) name).report.toList.splitOn '\n'
        = [(Diagnostic.mk (.illegalCharacter (String.singleton c)) name).headline.toList,
           ("-> " ++ name).toList] := by
  have before : '\n' ∉ "Error: IllegalCharacter (Unrecognised character `".toList := by decide
  have behind : '\n' ∉ "`)".toList := by decide
  have arrow : '\n' ∉ "-> ".toList := by decide
  have first :
      '\n' ∉ (Diagnostic.mk (.illegalCharacter (String.singleton c)) name).headline.toList := by
    rw [headline_illegalCharacter, String.toList_append, String.toList_append,
      String.toList_singleton, List.mem_append, List.mem_append, List.mem_singleton]
    rintro ((mem | own) | mem)
    · exact before mem
    · exact feed own.symm
    · exact behind mem
  have second : '\n' ∉ ("-> " ++ name).toList := by
    rw [String.toList_append, List.mem_append]
    rintro (mem | mem)
    · exact arrow mem
    · exact single mem
  rw [toList_report]
  refine ⟨?_, ?_⟩
  · rw [List.count_append, List.count_cons_self, List.count_eq_zero.mpr first,
      List.count_eq_zero.mpr second]
  · rw [List.splitOn_append_cons_self_of_not_mem first, List.splitOn_eq_singleton second]

/-! ### The report of a text -/

/-- The diagnostic of a text is about its first foreign character, which is no line feed. -/
theorem exists_of_firstIllegal? {source name : String} {d : Diagnostic}
    (found : firstIllegal? name (tokenize source) = some d) :
    ∃ c, source.toList.find? (· ∉ alphabet) = some c ∧ c ≠ '\n'
      ∧ d = ⟨.illegalCharacter (String.singleton c), name⟩ := by
  rw [firstIllegal?_tokenize, Option.map_eq_some_iff] at found
  obtain ⟨c, first, rfl⟩ := found
  have foreign : (fun c => !alphabet.contains c) = fun c => decide (c ∉ alphabet) := by
    funext c
    simp
  rw [foreignChars, List.head?_filter, foreign] at first
  refine ⟨c, first, ?_, rfl⟩
  rintro rfl
  have outside := List.find?_some first
  revert outside
  decide +kernel

/-- **The report of a text is unambiguous.**  Texts are reported alike exactly when their
sources have the same name and the first foreign character is the same.  If the name is on
one line, the report is on two, whatever the text. -/
theorem illegal_reports_unambiguous {source name : String} {d : Diagnostic}
    (found : firstIllegal? name (tokenize source) = some d) :
    (∀ other elsewhere e, firstIllegal? elsewhere (tokenize other) = some e →
        (d.report = e.report ↔
          name = elsewhere
            ∧ source.toList.find? (· ∉ alphabet) = other.toList.find? (· ∉ alphabet)))
      ∧ ('\n' ∉ name.toList →
          d.report.toList.count '\n' = 1
            ∧ d.report.toList.splitOn '\n' = [d.headline.toList, ("-> " ++ name).toList]) := by
  obtain ⟨c, first, feed, rfl⟩ := exists_of_firstIllegal? found
  refine ⟨?_, ?_⟩
  · intro other elsewhere e there
    obtain ⟨b, second, -, rfl⟩ := exists_of_firstIllegal? there
    rw [report_illegal_inj, first, second, Option.some.injEq, and_comm]
  · intro single
    exact lines_report_illegal feed single

/-- Two texts with the same first foreign character, and a name that reads like a report. -/
theorem illegal_reports_unambiguous_of_frame :
    firstIllegal? "p" (tokenize "let é = @") = some ⟨.illegalCharacter "é", "p"⟩
      ∧ firstIllegal? "p" (tokenize "é\n") = some ⟨.illegalCharacter "é", "p"⟩
      ∧ firstIllegal? "é`)\n-> p" (tokenize "é\n")
          = some ⟨.illegalCharacter "é", "é`)\n-> p"⟩
      ∧ "let é = @".toList.find? (· ∉ alphabet) = "é\n".toList.find? (· ∉ alphabet)
      ∧ (Diagnostic.mk (.illegalCharacter "é") "p").report
          ≠ (Diagnostic.mk (.illegalCharacter "é") "é`)\n-> p").report
      ∧ (Diagnostic.mk (.illegalCharacter "é") "p").report.toList.count '\n' = 1 := by
  have here : firstIllegal? "p" (tokenize "let é = @") = some ⟨.illegalCharacter "é", "p"⟩ := by
    decide +kernel
  have there : firstIllegal? "p" (tokenize "é\n") = some ⟨.illegalCharacter "é", "p"⟩ := by
    decide +kernel
  have disguised : firstIllegal? "é`)\n-> p" (tokenize "é\n")
      = some ⟨.illegalCharacter "é", "é`)\n-> p"⟩ := by
    decide +kernel
  obtain ⟨alike, lines⟩ := illegal_reports_unambiguous here
  refine ⟨here, there, disguised, ((alike _ _ _ there).mp rfl).2, ?_, (lines (by decide)).1⟩
  rw [Ne, alike _ _ _ disguised]
  rintro ⟨names, -⟩
  revert names
  decide

/-- With more than a character to show, the frame can be a part of it. -/
example :
    (Diagnostic.mk (.illegalCharacter "a`)\n-> b") "c").report
      = (Diagnostic.mk (.illegalCharacter "a") "b`)\n-> c").report := by
  decide

end Diagnostic

end ScriptLexer
