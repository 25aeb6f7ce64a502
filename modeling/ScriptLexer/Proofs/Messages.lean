/-
ScriptLexer/Proofs/Messages.lean

A message tells its fault.

The message of a fault begins in a way of its own, and the first two letters are enough to
see which (`Fault.opening_append_inj`).  What follows are the particulars.  A text from
outside stands in quotes, so it ends where the quotes end; the one that does not, the
reason given by the system, is the last thing in its message (`Fault.message_injective`).

The message of a diagnostic has the name of the source in front, and the name is not in
quotes: it may look like a message itself.  So it is not to be found from the front.  When
the fault is an illegal character, the message ends with a quoted text, and behind that
there is nothing to mistake for something else: read from the end, the quotes are found,
and then the name (`Diagnostic.message_illegal_inj`).  When the reason of the system comes
last, there is no telling (see the example at the end).
-/
import ScriptLexer.Diagnostic.Basic
import ScriptLexer.Proofs.Quoted

namespace ScriptLexer

namespace Fault

/-! ### The parts of a message -/

/-- How the message of a fault begins, whatever its particulars. -/
def opening : Fault → String
  | illegalCharacter _ => "illegal character: "
  | unreadableSource _ _ => "unable to read "
  | readlineFailure _ => "readline failure: "
  | incorrectArguments _ => "incorrect arguments: expected at most 1, received "

/-- What follows in the message. -/
def particulars : Fault → String
  | illegalCharacter character => quotedText character
  | unreadableSource path message => quotedText path ++ ": " ++ message
  | readlineFailure message => message
  | incorrectArguments received => toString received

theorem message_eq (f : Fault) : f.message = f.opening ++ f.particulars := by
  cases f with
  | unreadableSource path message =>
    show "unable to read " ++ quotedText path ++ ": " ++ message
      = "unable to read " ++ (quotedText path ++ ": " ++ message)
    rw [← String.append_assoc, ← String.append_assoc]
  | _ => rfl

/-- The ways in which messages begin. -/
def openings : List String :=
  ["illegal character: ", "unable to read ", "readline failure: ",
   "incorrect arguments: expected at most 1, received "]

theorem opening_mem (f : Fault) : f.opening ∈ openings := by
  cases f <;> simp [opening, openings]

/-- How a message begins can be told from what follows: two letters are enough. -/
theorem opening_append_inj {a b : Fault} {rest more : String}
    (same : a.opening ++ rest = b.opening ++ more) : a.opening = b.opening ∧ rest = more := by
  have long : ∀ x ∈ openings, 2 ≤ x.toList.length := by decide
  have apart : ∀ x ∈ openings, ∀ y ∈ openings, x.toList.take 2 = y.toList.take 2 → x = y := by
    decide
  have letters := congrArg (fun text => text.toList.take 2) same
  simp only [String.toList_append, List.take_append_of_le_length (long _ a.opening_mem),
    List.take_append_of_le_length (long _ b.opening_mem)] at letters
  have alike := apart _ a.opening_mem _ b.opening_mem letters
  rw [alike, String.append_right_inj] at same
  exact ⟨alike, same⟩

/-! ### The message of a fault -/

/-- **Faults with the same message are the same.** -/
theorem message_injective {a b : Fault} (same : a.message = b.message) : a = b := by
  rw [message_eq, message_eq] at same
  obtain ⟨alike, rest⟩ := opening_append_inj same
  cases a with
  | illegalCharacter character =>
    cases b with
    | illegalCharacter other => rw [quotedText_inj.mp rest]
    | _ => simp [opening] at alike
  | unreadableSource path message =>
    cases b with
    | unreadableSource other reason =>
      have chars := congrArg String.toList rest
      simp only [particulars, quotedText, String.toList_append, String.toList_ofList,
        List.append_assoc] at chars
      obtain ⟨paths, behind⟩ := enclosed_append_inj (by decide) chars
      rw [List.append_right_inj, String.toList_inj] at behind
      rw [String.toList_inj.mp paths, behind]
    | _ => simp [opening] at alike
  | readlineFailure message =>
    cases b with
    | readlineFailure reason => exact congrArg readlineFailure rest
    | _ => simp [opening] at alike
  | incorrectArguments received =>
    cases b with
    | incorrectArguments count =>
      have digits := congrArg String.toList rest
      simp only [particulars, Nat.toString_eq_repr, Nat.toList_repr] at digits
      rw [toDigits_ten_inj.mp digits]
    | _ => simp [opening] at alike

end Fault

/-! ### The message of a diagnostic -/

namespace Diagnostic

theorem toList_message_illegal (character name : String) :
    (Diagnostic.mk (.illegalCharacter character) name).message.toList
      = name.toList ++ ": illegal character:".toList ++ ' ' :: enclosed '"' character.toList := by
  have tag : ": ".toList ++ "illegal character: ".toList
      = ": illegal character:".toList ++ [' '] := by decide
  show (name ++ ": " ++ ("illegal character: " ++ quotedText character)).toList = _
  simp only [quotedText, String.toList_append, String.toList_ofList, List.append_assoc]
  rw [← List.append_assoc ": ".toList, tag, List.append_assoc, List.singleton_append]

/-- The quotes at the end of a message are found from there, and so is the name. -/
theorem message_illegal_inj {character other name elsewhere : String}
    (same : (Diagnostic.mk (.illegalCharacter character) name).message
      = (Diagnostic.mk (.illegalCharacter other) elsewhere).message) :
    character = other ∧ name = elsewhere := by
  have chars := congrArg String.toList same
  rw [toList_message_illegal, toList_message_illegal] at chars
  obtain ⟨before, quoted⟩ := append_enclosed_inj (by decide) (by decide) chars
  rw [List.append_left_inj, String.toList_inj] at before
  exact ⟨String.toList_inj.mp quoted, before⟩

end Diagnostic

/-- **A message tells its fault**, and with an illegal character it tells the source too,
whatever the name of the source looks like. -/
theorem messages_tell_faults :
    (∀ a b : Fault, a.message = b.message ↔ a = b)
      ∧ ∀ character other name elsewhere : String,
          (Diagnostic.mk (.illegalCharacter character) name).message
              = (Diagnostic.mk (.illegalCharacter other) elsewhere).message
            ↔ character = other ∧ name = elsewhere := by
  refine ⟨?_, ?_⟩
  · intro a b
    exact ⟨Fault.message_injective, congrArg Fault.message⟩
  · intro character other name elsewhere
    refine ⟨Diagnostic.message_illegal_inj, ?_⟩
    rintro ⟨rfl, rfl⟩
    rfl

/-- A reason that comes last may hold what another message has in the name. -/
example :
    (Diagnostic.mk (.readlineFailure "c") "a: readline failure: b").message
      = (Diagnostic.mk (.readlineFailure "b: readline failure: c") "a").message := by
  decide

end ScriptLexer
