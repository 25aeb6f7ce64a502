/-
ScriptLexer/Proofs/Record.lean

What stands in a description can be told from it.

A description puts values one behind the other, and each value is described in a way of its
own.  What has to be known of such a way is that the description of a value can be told from
what stands behind it, provided that this begins as descriptions go on: with a comma, a
space, or a closing bracket (`Legible`).  Quotes end by themselves.  A number or a truth
value ends where one of these characters comes, as it has none of them
(`legible_of_solid`).

Lists, missing values and records hand this on from their parts to the whole.  Of a list,
the first member is set apart, and of a record, the first field; before each of the others
stands a comma, so that they are read off one by one (`behindMembers_append_inj`,
`behindFields_inj`).
-/
import ScriptLexer.Proofs.Lexeme
import ScriptLexer.Proofs.Quoted
import ScriptLexer.Text.Record

namespace ScriptLexer

/-! ### Where a value ends -/

/-- The characters with which a description goes on behind a value. -/
def isStop (c : Char) : Bool :=
  c == ',' || c == ' ' || c == ']' || c == ')'

/-- The text is empty or begins with a stop. -/
def Stops (text : List Char) : Prop :=
  text.head?.all isStop = true

theorem stops_cons {c : Char} (stop : isStop c = true) (text : List Char) : Stops (c :: text) :=
  stop

/-- A way of describing values by which they can be told. -/
structure Legible {α : Type} (describe : α → String) : Prop where
  /-- There is something to read before the first stop. -/
  begins : ∀ a, ∃ c text, (describe a).toList = c :: text ∧ isStop c = false
  /-- With a stop behind it, the value can be told, and what is behind it. -/
  ends : ∀ {a b : α} {rest more : List Char}, Stops rest → Stops more →
    (describe a).toList ++ rest = (describe b).toList ++ more → a = b ∧ rest = more

/-! ### Single values -/

/-- A description without a stop in it ends at the first one. -/
theorem legible_of_solid {α : Type} {describe : α → String}
    (injective : ∀ {a b}, describe a = describe b → a = b)
    (filled : ∀ a, (describe a).toList ≠ [])
    (solid : ∀ a, (describe a).toList.all (fun c => !isStop c) = true) : Legible describe where
  begins := by
    intro a
    obtain ⟨c, text, chars⟩ := List.exists_cons_of_ne_nil (filled a)
    have first := solid a
    rw [chars, List.all_cons, Bool.and_eq_true, Bool.not_eq_true'] at first
    exact ⟨c, text, chars, first.1⟩
  ends := by
    intro a b rest more stop stop' same
    have behind {text : List Char} (stop : Stops text) :
        text.head?.any (fun c => !isStop c) = false := by
      rcases text with - | ⟨c, text⟩
      · rfl
      · simpa [Stops] using stop
    obtain ⟨described, others⟩ :=
      append_inj_of_stops (solid a) (behind stop) (solid b) (behind stop') same
    exact ⟨injective (String.toList_inj.mp described), others⟩

theorem legible_toString : Legible fun n : Nat => toString n := by
  have chars (n : Nat) : (toString n).toList = Nat.toDigits 10 n := by
    rw [Nat.toString_eq_repr, Nat.toList_repr]
  apply legible_of_solid
  · intro n m same
    have digits := congrArg String.toList same
    rw [chars, chars] at digits
    exact toDigits_ten_inj.mp digits
  · intro n
    rw [chars]
    exact Nat.toDigits_ne_nil
  · intro n
    have digits : ∀ k < 10, isStop (Nat.digitChar k) = false := by decide
    rw [chars, List.all_eq_true]
    intro c mem
    obtain ⟨k, small, rfl⟩ := exists_digitChar_of_mem_toDigits (by decide) mem
    rw [digits k small]
    rfl

theorem legible_describeBool : Legible describeBool := by
  apply legible_of_solid
  · decide
  · decide
  · decide

theorem legible_quotedChar : Legible quotedChar where
  begins := by
    intro c
    exact ⟨'\'', escaped '\'' c ++ ['\''], by simp [quotedChar, enclosed], by decide⟩
  ends := by
    intro c d rest more _ _ same
    rw [quotedChar, quotedChar, String.toList_ofList, String.toList_ofList] at same
    obtain ⟨chars, behind⟩ := enclosed_append_inj (by decide) same
    exact ⟨List.head_eq_of_cons_eq chars, behind⟩

/-! ### Values that may be missing -/

theorem legible_describeOption {α : Type} {describe : α → String} (h : Legible describe) :
    Legible fun value : Option α => describeOption (value.map describe) where
  begins := by
    rintro (- | a)
    · have nothing : (describeOption none).toList = 'N' :: "one".toList := by decide
      exact ⟨'N', "one".toList, nothing, by decide⟩
    · exact ⟨'S', "ome(".toList ++ (describe a).toList ++ ")".toList,
        by simp [describeOption], by decide⟩
  ends := by
    have present (a : α) (rest : List Char) :
        (describeOption (some (describe a))).toList ++ rest
          = "Some(".toList ++ ((describe a).toList ++ ')' :: rest) := by
      simp [describeOption]
    have apart (a : α) (rest more : List Char) :
        "None".toList ++ rest ≠ "Some(".toList ++ ((describe a).toList ++ ')' :: more) := by
      intro same
      have first := congrArg List.head? same
      revert first
      simp
    rintro (- | a) (- | b) rest more _ _ same
    · exact ⟨rfl, List.append_cancel_left same⟩
    · rw [Option.map_some, present] at same
      exact absurd same (apart b rest more)
    · rw [Option.map_some, present] at same
      exact absurd same.symm (apart a more rest)
    · rw [Option.map_some, Option.map_some, present, present, List.append_right_inj] at same
      have close := stops_cons (c := ')') (by decide)
      obtain ⟨rfl, behind⟩ := h.ends (close rest) (close more) same
      exact ⟨rfl, (List.cons.inj behind).2⟩

/-! ### Members and fields -/

/-- What is joined by commas, the first set apart. -/
theorem toList_intercalate_cons (first : String) (others : List String) :
    (", ".intercalate (first :: others)).toList
      = first.toList ++ others.flatMap fun other => ',' :: ' ' :: other.toList := by
  induction others generalizing first with
  | nil => simp
  | cons second others ih =>
    rw [String.intercalate_cons_cons, String.toList_append, String.toList_append, ih,
      List.flatMap_cons, List.append_assoc]
    rfl

section Members

variable {α : Type} {describe : α → String}

/-- What stands behind the first member of a list. -/
def behindMembers (describe : α → String) (members : List α) : List Char :=
  (members.flatMap fun a => ',' :: ' ' :: (describe a).toList) ++ [']']

theorem toList_describeList_cons (describe : α → String) (a : α) (members : List α) :
    (describeList ((a :: members).map describe)).toList
      = '[' :: ((describe a).toList ++ behindMembers describe members) := by
  have opening : "[".toList = ['['] := by decide
  have closing : "]".toList = [']'] := by decide
  rw [describeList, String.toList_append, String.toList_append, List.map_cons,
    toList_intercalate_cons, List.flatMap_map, behindMembers, opening, closing,
    List.append_assoc, List.append_assoc, List.singleton_append]

theorem stops_behindMembers (members : List α) (rest : List Char) :
    Stops (behindMembers describe members ++ rest) := by
  cases members <;> exact stops_cons (by decide) _

/-- The other members can be told, one by one. -/
theorem behindMembers_append_inj (h : Legible describe) {members others : List α}
    {rest more : List Char}
    (same : behindMembers describe members ++ rest = behindMembers describe others ++ more) :
    members = others ∧ rest = more := by
  have later (a : α) (members : List α) (rest : List Char) :
      behindMembers describe (a :: members) ++ rest
        = ',' :: ' ' :: ((describe a).toList ++ (behindMembers describe members ++ rest)) := by
    simp [behindMembers]
  have last (rest : List Char) : behindMembers describe [] ++ rest = ']' :: rest := rfl
  induction members generalizing others with
  | nil =>
    rcases others with - | ⟨b, others⟩
    · exact ⟨rfl, (List.cons.inj same).2⟩
    · rw [last, later] at same
      simp at same
  | cons a members ih =>
    rcases others with - | ⟨b, others⟩
    · rw [last, later] at same
      simp at same
    · rw [later, later, List.cons_inj_right, List.cons_inj_right] at same
      obtain ⟨rfl, behind⟩ :=
        h.ends (stops_behindMembers members rest) (stops_behindMembers others more) same
      obtain ⟨rfl, rest_eq⟩ := ih behind
      exact ⟨rfl, rest_eq⟩

theorem legible_describeList (h : Legible describe) :
    Legible fun members : List α => describeList (members.map describe) where
  begins := by
    rintro (- | ⟨a, members⟩)
    · have nothing : (describeList []).toList = ['[', ']'] := by decide
      exact ⟨'[', [']'], nothing, by decide⟩
    · exact ⟨'[', _, toList_describeList_cons describe a members, by decide⟩
  ends := by
    have empty (rest : List Char) :
        (describeList (([] : List α).map describe)).toList ++ rest = '[' :: ']' :: rest := by
      have brackets : (describeList []).toList = ['[', ']'] := by decide
      rw [List.map_nil, brackets]
      rfl
    have filled (a : α) (members : List α) (rest : List Char) :
        (describeList ((a :: members).map describe)).toList ++ rest
          = '[' :: ((describe a).toList ++ (behindMembers describe members ++ rest)) := by
      rw [toList_describeList_cons, List.cons_append, List.append_assoc]
    -- no member begins like the end of the list
    have apart (a : α) (text rest : List Char) : (describe a).toList ++ text ≠ ']' :: rest := by
      obtain ⟨c, chars, begun, reads⟩ := h.begins a
      intro same
      rw [begun, List.cons_append, List.cons.injEq] at same
      rw [same.1] at reads
      cases reads
    rintro (- | ⟨a, members⟩) (- | ⟨b, others⟩) rest more _ _ same
    · rw [empty, empty, List.cons_inj_right, List.cons_inj_right] at same
      exact ⟨rfl, same⟩
    · rw [empty, filled, List.cons_inj_right] at same
      exact absurd same.symm (apart b _ rest)
    · rw [empty, filled, List.cons_inj_right] at same
      exact absurd same (apart a _ more)
    · rw [filled, filled, List.cons_inj_right] at same
      obtain ⟨rfl, behind⟩ :=
        h.ends (stops_behindMembers members rest) (stops_behindMembers others more) same
      obtain ⟨rfl, rest_eq⟩ := behindMembers_append_inj h behind
      exact ⟨rfl, rest_eq⟩

end Members

/-- What stands behind the first field of a record. -/
def behindFields (fields : List (String × String)) : List Char :=
  (fields.flatMap fun field => ',' :: ' ' :: (field.1 ++ ": " ++ field.2).toList) ++ " \x7d".toList

theorem stops_behindFields (fields : List (String × String)) : Stops (behindFields fields) := by
  cases fields <;> exact stops_cons (by decide) _

theorem behindFields_cons (label value : String) (fields : List (String × String)) :
    behindFields ((label, value) :: fields)
      = ',' :: ' ' :: ((label ++ ": ").toList ++ (value.toList ++ behindFields fields)) := by
  simp [behindFields]

/-- Records with the same description have the same fields, as far as they are described. -/
theorem behindFields_of_describeRecord {name : String} {field other : String × String}
    {fields others : List (String × String)}
    (same : describeRecord name (field :: fields) = describeRecord name (other :: others)) :
    behindFields (field :: fields) = behindFields (other :: others) := by
  have whole (field : String × String) (fields : List (String × String)) :
      (describeRecord name (field :: fields)).toList
        = (name ++ " \x7b ").toList
          ++ ((field.1 ++ ": ").toList ++ (field.2.toList ++ behindFields fields)) := by
    rw [describeRecord, String.toList_append, String.toList_append, List.map_cons,
      toList_intercalate_cons, List.flatMap_map, behindFields]
    simp only [String.toList_append, List.append_assoc]
  have chars := congrArg String.toList same
  rw [whole, whole, List.append_right_inj] at chars
  rw [behindFields_cons, behindFields_cons, chars]

/-- The first of the fields can be told, and what stands behind it. -/
theorem behindFields_inj {α : Type} {describe : α → String} (h : Legible describe) {a b : α}
    {label : String} {fields others : List (String × String)}
    (same : behindFields ((label, describe a) :: fields)
      = behindFields ((label, describe b) :: others)) :
    a = b ∧ behindFields fields = behindFields others := by
  rw [behindFields_cons, behindFields_cons, List.cons_inj_right, List.cons_inj_right,
    List.append_right_inj] at same
  exact h.ends (stops_behindFields fields) (stops_behindFields others) same

end ScriptLexer
