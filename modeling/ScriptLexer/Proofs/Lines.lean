/-
ScriptLexer/Proofs/Lines.lean

Lines of bytes, lines of text, and tokens line by line.

An editor is handed the lines of an input while they are bytes, cut at every byte 10,
and decodes each by itself.  A text has its lines between line feeds.  In UTF-8
the byte 10 stands for the line feed and is part of no other character
(`lineFeed_mem_utf8EncodeChar_iff`), so the lines of an encoded text are the
encoded lines of the text (`linesOf_encoded_last`, `linesOf_encoded_append`).  Whatever
the bytes are, those behind a line feed are cut as if they stood alone
(`linesOf_append_of_ended`).

A text is a last line, or a line, a line feed and the rest (`byLines`): whatever is
true of texts by their lines is proved along that.  The first use is that no token
goes across a line feed, so a text may be lexed line by line (`lexemes_splitOn`).
-/
import ScriptLexer.LineEditor
import ScriptLexer.Proofs.Concatenation

namespace ScriptLexer

/-! ### Texts by their lines -/

/-- What is true of a list without a separator, and of a part in front of a list of which
it is true, is true of every list. -/
@[elab_as_elim]
theorem bySeparator {α : Type} (separator : α) {motive : List α → Prop}
    (last : ∀ part, separator ∉ part → motive part)
    (more : ∀ part rest, separator ∉ part → motive rest → motive (part ++ separator :: rest))
    (list : List α) : motive list := by
  by_cases mem : separator ∈ list
  · obtain ⟨part, rest, same, first⟩ := List.eq_append_cons_of_mem mem
    have shorter : rest.length < list.length := by
      rw [same, List.length_append, List.length_cons]
      omega
    rw [same]
    exact more part rest first (bySeparator separator last more rest)
  · exact last list mem
termination_by list.length

/-- What is true of a text without a line feed, and of a line in front of a text of
which it is true, is true of every text. -/
@[elab_as_elim]
theorem byLines {motive : List Char → Prop} (last : ∀ line, '\n' ∉ line → motive line)
    (more : ∀ line rest, '\n' ∉ line → motive rest → motive (line ++ '\n' :: rest))
    (text : List Char) : motive text :=
  bySeparator '\n' last more text

/-- The tokens of a text are those of its lines. -/
theorem lexemes_splitOn (text : List Char) :
    lexemes text = (text.splitOn '\n').flatMap lexemes := by
  induction text using byLines with
  | last line single =>
    rw [List.splitOn_eq_singleton single, List.flatMap_singleton]
  | more line rest single ih =>
    rw [List.splitOn_append_cons_self_of_not_mem single, List.flatMap_cons, ← ih,
      List.append_cons]
    -- the line feed is a gap, and parts what stands on its two sides
    exact lexemes_append_gap (List.cons_ne_nil _ _) (by decide) line rest

namespace LineEditor

/-! ### Encoded texts -/

/-- The bytes of a text in UTF-8. -/
def encoded (text : List Char) : List UInt8 :=
  text.flatMap String.utf8EncodeChar

theorem encoded_append (front back : List Char) :
    encoded (front ++ back) = encoded front ++ encoded back :=
  List.flatMap_append

theorem encoded_lineFeed : encoded ['\n'] = [lineFeed] := by decide

theorem encoded_append_cons (line rest : List Char) :
    encoded (line ++ '\n' :: rest) = encoded line ++ lineFeed :: encoded rest := by
  rw [List.append_cons, encoded_append, encoded_append, encoded_lineFeed, List.append_assoc,
    List.singleton_append]

theorem toList_data_toUTF8 (text : String) : text.toUTF8.data.toList = encoded text.toList := by
  rw [String.toUTF8_eq_toByteArray, ← String.utf8Encode_toList, List.utf8Encode,
    List.toList_data_toByteArray, encoded]

theorem eq_toUTF8_iff {input : ByteArray} {text : String} :
    input = text.toUTF8 ↔ input.data.toList = encoded text.toList := by
  rw [← toList_data_toUTF8, Array.toList_inj, ByteArray.ext_iff]

theorem decodeText_mk_toArray_iff {bytes : List UInt8} {text : String} :
    decodeText ⟨bytes.toArray⟩ = .ok text ↔ bytes = encoded text.toList :=
  decodeText_eq_ok_iff.trans eq_toUTF8_iff

/-- The bytes of a text are handed on, whatever text it is. -/
theorem readLine_encoded (line : List Char) :
    readLine (encoded line) = .line (eraseBackspaces (dropLineEnd (String.ofList line))) := by
  have decoded : decodeText ⟨(encoded line).toArray⟩ = .ok (String.ofList line) := by
    rw [decodeText_mk_toArray_iff, String.toList_ofList]
  rw [readLine, decoded]

/-- The bytes from 128 on are no line feeds. -/
theorem lineFeed_ne_ofNat {n : Nat} (low : 128 ≤ n) (high : n < 256) :
    lineFeed ≠ UInt8.ofNat n := by
  intro same
  have number := congrArg UInt8.toNat same
  rw [UInt8.toNat_ofNat_of_lt' high] at number
  rw [← number] at low
  exact absurd low (by decide)

/-- The byte of the line feed is part of the line feed alone. -/
theorem lineFeed_mem_utf8EncodeChar_iff {c : Char} :
    lineFeed ∈ String.utf8EncodeChar c ↔ c = '\n' := by
  constructor
  · -- in an encoding of several bytes each is at least 128
    fun_cases String.utf8EncodeChar c with
    | case1 v ascii =>
      intro mem
      have number := congrArg UInt8.toNat (List.mem_singleton.mp mem)
      rw [UInt8.toNat_ofNat_of_lt' (Nat.lt_of_le_of_lt ascii (by decide))] at number
      exact Char.ext (UInt32.toNat_inj.mp number.symm)
    | case2 | case3 | case4 =>
      intro mem
      simp (disch := omega) only [List.mem_cons, List.not_mem_nil, lineFeed_ne_ofNat,
        or_false] at mem
  · rintro rfl
    decide

theorem lineFeed_mem_encoded_iff {text : List Char} : lineFeed ∈ encoded text ↔ '\n' ∈ text := by
  rw [encoded, List.mem_flatMap]
  constructor
  · rintro ⟨c, mem, byte⟩
    rwa [← lineFeed_mem_utf8EncodeChar_iff.mp byte]
  · intro mem
    exact ⟨'\n', mem, lineFeed_mem_utf8EncodeChar_iff.mpr rfl⟩

/-! ### Lines of bytes -/

/-- The lines of bytes, each with its line feed. -/
def linesOf (bytes : List UInt8) : List (List UInt8) :=
  cutLines #[] [] bytes

theorem lines_eq (input : ByteArray) : lines input = linesOf input.data.toList := rfl

/-- Lines that are done stand before those that are still to be cut. -/
theorem cutLines_eq (done : Array (List UInt8)) (line bytes : List UInt8) :
    cutLines done line bytes = done.toList ++ cutLines #[] line bytes := by
  induction bytes generalizing done line with
  | nil =>
    rcases line with - | ⟨byte, earlier⟩
    · simp [cutLines]
    · simp [cutLines]
  | cons byte rest ih =>
    simp only [cutLines]
    split
    · rw [ih, ih (#[].push _)]
      simp
    · exact ih done (byte :: line)

/-- Up to a line feed, bytes are added to the line that is being read. -/
theorem cutLines_append {front : List UInt8} (single : lineFeed ∉ front)
    (line bytes : List UInt8) :
    cutLines #[] line (front ++ bytes) = cutLines #[] (front.reverse ++ line) bytes := by
  induction front generalizing line with
  | nil => rfl
  | cons byte rest ih =>
    rw [List.mem_cons, not_or] at single
    obtain ⟨other, later⟩ := single
    rw [List.cons_append, cutLines, if_neg (Ne.symm other), ih later, List.reverse_cons,
      List.append_assoc]
    rfl

theorem linesOf_last {line : List UInt8} (single : lineFeed ∉ line) :
    linesOf line = if line = [] then [] else [line] := by
  have read := cutLines_append single [] []
  rw [List.append_nil, List.append_nil] at read
  rw [linesOf, read]
  rcases line with - | ⟨byte, rest⟩
  · rfl
  · simp [cutLines]

theorem linesOf_append {line : List UInt8} (single : lineFeed ∉ line) (rest : List UInt8) :
    linesOf (line ++ lineFeed :: rest) = (line ++ [lineFeed]) :: linesOf rest := by
  rw [linesOf, cutLines_append single, cutLines, if_pos rfl, cutLines_eq, linesOf]
  simp

/-- Behind a line feed the lines are cut as if nothing stood before. -/
theorem linesOf_append_of_ended (front rest : List UInt8) :
    linesOf (front ++ lineFeed :: rest) = linesOf (front ++ [lineFeed]) ++ linesOf rest := by
  induction front using bySeparator lineFeed with
  | last line single =>
    rw [linesOf_append single, linesOf_append single]
    rfl
  | more line front single ih =>
    rw [List.append_assoc, List.cons_append, linesOf_append single, ih, List.append_assoc,
      List.cons_append, linesOf_append single, List.cons_append]

/-! ### Lines of encoded texts -/

theorem encoded_eq_nil_iff {text : List Char} : encoded text = [] ↔ text = [] := by
  rcases text with - | ⟨c, rest⟩
  · simp [encoded]
  · simp [encoded, String.utf8EncodeChar_ne_nil]

theorem linesOf_encoded_last {line : List Char} (single : '\n' ∉ line) :
    linesOf (encoded line) = if line = [] then [] else [encoded line] := by
  rw [linesOf_last (mt lineFeed_mem_encoded_iff.mp single)]
  simp only [encoded_eq_nil_iff]

theorem linesOf_encoded_append {line : List Char} (single : '\n' ∉ line) (rest : List Char) :
    linesOf (encoded (line ++ '\n' :: rest))
      = encoded (line ++ ['\n']) :: linesOf (encoded rest) := by
  rw [encoded_append_cons, linesOf_append (mt lineFeed_mem_encoded_iff.mp single),
    encoded_append, encoded_lineFeed]

/-- The lines of an encoded text are encoded, and hold a line feed at most at their end. -/
theorem exists_of_mem_linesOf_encoded {text : List Char} :
    ∀ bytes ∈ linesOf (encoded text),
      ∃ line, bytes = encoded line ∧ line ≠ [] ∧ '\n' ∉ line.dropLast := by
  induction text using byLines with
  | last line single =>
    rw [linesOf_encoded_last single]
    split
    next => exact fun _ mem => absurd mem List.not_mem_nil
    next nonempty =>
      rw [List.forall_mem_singleton]
      exact ⟨line, rfl, nonempty, fun mem => single (List.dropLast_subset _ mem)⟩
  | more line rest single ih =>
    rw [linesOf_encoded_append single, List.forall_mem_cons]
    refine ⟨⟨line ++ ['\n'], rfl, List.append_ne_nil_of_right_ne_nil _ (List.cons_ne_nil _ _), ?_⟩,
      ih⟩
    rwa [List.dropLast_concat]

/-- Bytes that become a text by a line feed after them are a text without it. -/
theorem exists_encoded_of_append_lineFeed {bytes : List UInt8} {text : List Char}
    (same : bytes ++ [lineFeed] = encoded text) : ∃ front, bytes = encoded front := by
  rcases List.eq_nil_or_concat text with rfl | ⟨front, c, rfl⟩
  · exact absurd same (List.append_ne_nil_of_right_ne_nil _ (List.cons_ne_nil _ _))
  · refine ⟨front, ?_⟩
    rw [List.concat_eq_append, encoded_append] at same
    -- the last byte is that of the last character, which is therefore the line feed
    have solid : encoded [c] ≠ [] := mt encoded_eq_nil_iff.mp (List.cons_ne_nil c [])
    have last : (encoded [c]).getLast? = some lineFeed := by
      have ends := congrArg List.getLast? same
      rw [List.getLast?_concat, List.getLast?_append, List.getLast?_eq_some_getLast solid,
        Option.some_or] at ends
      rw [List.getLast?_eq_some_getLast solid, ends]
    obtain rfl := List.mem_singleton.mp (lineFeed_mem_encoded_iff.mp (List.mem_of_getLast? last))
    rw [encoded_lineFeed] at same
    exact List.append_cancel_right same

end LineEditor

end ScriptLexer
