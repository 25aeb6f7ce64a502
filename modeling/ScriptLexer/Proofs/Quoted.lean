/-
ScriptLexer/Proofs/Quoted.lean

What stands in quotes can be read back, and can be shown.

A quoted text is written character by character.  Each way of writing one can be told
from its beginning, so a character can be read back with anything behind it
(`readEscaped_escaped`); and none of them begins with the delimiter, which therefore
ends the text where it first stands alone (`head?_escaped_append`).  Hence a quoted text
at the beginning of a message determines both itself and what follows it
(`enclosed_append_inj`), whatever quotes and backslashes the text holds.

Read from behind, a quoted text at the end of a message determines what stands before it
(`append_enclosed_inj`).  A delimiter in the text stands behind a backslash
(`getLast?_of_flatMap_escaped`); the last one that does not, but for the one at the end,
is where the quotes begin.

All that is written is printable (`isPlain_enclosed`): a character that is not is
replaced by its number, and the digits of a number are.
-/
import ScriptLexer.Text.Quoted

namespace ScriptLexer

/-! ### Digits -/

/-- The digits of a number are digits of its base. -/
theorem exists_digitChar_of_mem_toDigits {base n : Nat} (more : 1 < base) {c : Char}
    (mem : c ∈ Nat.toDigits base n) : ∃ k < base, c = Nat.digitChar k := by
  rw [Nat.toDigits_eq_if more] at mem
  split at mem
  next small => exact ⟨n, small, List.mem_singleton.mp mem⟩
  next large =>
    rcases List.mem_append.mp mem with earlier | last
    · have shorter : n / base < n := Nat.div_lt_self (by omega) more
      exact exists_digitChar_of_mem_toDigits more earlier
    · exact ⟨n % base, Nat.mod_lt n (by omega), List.mem_singleton.mp last⟩
termination_by n

theorem toDigits_ten_inj {n m : Nat} : Nat.toDigits 10 n = Nat.toDigits 10 m ↔ n = m := by
  refine ⟨?_, congrArg (Nat.toDigits 10)⟩
  intro same
  have read := congrArg (fun digits => Nat.ofDigitChars 10 digits 0) same
  simpa only [Nat.ofDigitChars_ten_toDigits] using read

/-- The value of a hexadecimal digit. -/
def digitValue (c : Char) : Nat :=
  if c.toNat < 'a'.toNat then c.toNat - '0'.toNat else c.toNat - 'a'.toNat + 10

theorem digitValue_digitChar : ∀ k < 16, digitValue (Nat.digitChar k) = k := by
  decide

/-- The number that hexadecimal digits stand for. -/
def numberOf (digits : List Char) : Nat :=
  digits.foldl (fun n c => 16 * n + digitValue c) 0

theorem numberOf_toDigits (n : Nat) : numberOf (Nat.toDigits 16 n) = n := by
  rw [Nat.toDigits_eq_if (by decide)]
  split
  next small =>
    show 16 * 0 + digitValue (Nat.digitChar n) = n
    rw [digitValue_digitChar n small]
    omega
  next large =>
    have earlier := numberOf_toDigits (n / 16)
    rw [numberOf] at earlier ⊢
    rw [List.foldl_append, earlier]
    show 16 * (n / 16) + digitValue (Nat.digitChar (n % 16)) = n
    rw [digitValue_digitChar _ (Nat.mod_lt n (by decide))]
    omega
termination_by n
decreasing_by omega

/-! ### The ways of writing a character -/

/-- The characters with a short form, each with the letter of it. -/
def shortForms : List (Char × Char) :=
  [('\x00', '0'), ('\t', 't'), ('\n', 'n'), ('\r', 'r'), ('\\', '\\')]

/-- `EscapedAs delimiter c text`: the character `c` is written as `text`. -/
inductive EscapedAs (delimiter : Char) : Char → List Char → Prop
  | short {c letter : Char} : (c, letter) ∈ shortForms → EscapedAs delimiter c ['\\', letter]
  | delimiter : EscapedAs delimiter delimiter ['\\', delimiter]
  | number {c : Char} : isUnprintable c = true → EscapedAs delimiter c (numbered c)
  | plain {c : Char} : c ≠ '\\' → c ≠ delimiter → isUnprintable c = false →
      EscapedAs delimiter c [c]

theorem escapedAs_escaped (delimiter c : Char) :
    EscapedAs delimiter c (escaped delimiter c) := by
  unfold escaped
  -- the short forms are asked for first
  iterate 5
    split
    next same =>
      subst same
      exact .short (by decide)
  split
  next own =>
    rw [own]
    exact .delimiter
  next own =>
    split
    next hidden => exact .number hidden
    next hidden => exact .plain ‹¬ c = '\\'› own (by simpa using hidden)

/-! ### Reading back -/

/-- The characters that stand around a text. -/
def isDelimiter (c : Char) : Bool :=
  c == '"' || c == '\''

theorem isDelimiter_iff {c : Char} : isDelimiter c = true ↔ c = '"' ∨ c = '\'' := by
  simp [isDelimiter]

/-- Reads back one character as it is written between delimiters, and gives the text
behind it. -/
def readEscaped : List Char → Option (Char × List Char)
  | '\\' :: '0' :: rest => some ('\x00', rest)
  | '\\' :: 't' :: rest => some ('\t', rest)
  | '\\' :: 'n' :: rest => some ('\n', rest)
  | '\\' :: 'r' :: rest => some ('\r', rest)
  | '\\' :: 'u' :: '\x7b' :: rest =>
    some (Char.ofNat (numberOf (rest.takeWhile (· != '\x7d'))),
      (rest.dropWhile (· != '\x7d')).tail)
  | '\\' :: c :: rest => some (c, rest)
  | c :: rest => some (c, rest)
  | [] => none

theorem readEscaped_numbered (c : Char) (rest : List Char) :
    readEscaped (numbered c ++ rest) = some (c, rest) := by
  have digits : ∀ d ∈ Nat.toDigits 16 c.toNat, (d != '\x7d') = true := by
    intro d mem
    obtain ⟨k, small, rfl⟩ := exists_digitChar_of_mem_toDigits (by decide) mem
    simp
  have whole : numbered c ++ rest
      = '\\' :: 'u' :: '\x7b' :: (Nat.toDigits 16 c.toNat ++ '\x7d' :: rest) := by
    simp [numbered]
  rw [whole, readEscaped, List.takeWhile_append_of_pos digits, List.dropWhile_append_of_pos digits]
  simp [numberOf_toDigits]

theorem readEscaped_escaped {delimiter : Char} (quote : isDelimiter delimiter = true) (c : Char)
    (rest : List Char) : readEscaped (escaped delimiter c ++ rest) = some (c, rest) := by
  have written := escapedAs_escaped delimiter c
  generalize escaped delimiter c = text at written ⊢
  cases written with
  | short listed =>
    simp only [shortForms, List.mem_cons, Prod.mk.injEq, List.not_mem_nil, or_false] at listed
    rcases listed with ⟨rfl, rfl⟩ | ⟨rfl, rfl⟩ | ⟨rfl, rfl⟩ | ⟨rfl, rfl⟩ | ⟨rfl, rfl⟩ <;> rfl
  | delimiter =>
    rcases isDelimiter_iff.mp quote with rfl | rfl <;> rfl
  | number _ => exact readEscaped_numbered c rest
  | plain backslash _ _ =>
    show readEscaped (c :: rest) = _
    unfold readEscaped
    split <;> simp_all

/-- What is written between delimiters does not begin with one. -/
theorem head?_escaped_append {delimiter : Char} (quote : isDelimiter delimiter = true) (c : Char)
    (rest : List Char) : (escaped delimiter c ++ rest).head? ≠ some delimiter := by
  have backslash : '\\' ≠ delimiter := by
    rintro rfl
    cases quote
  have written := escapedAs_escaped delimiter c
  generalize escaped delimiter c = text at written ⊢
  intro first
  cases written with
  | short _ => exact backslash (Option.some.inj first)
  | delimiter => exact backslash (Option.some.inj first)
  | number _ => exact backslash (Option.some.inj first)
  | plain _ own _ => exact own (Option.some.inj first)

/-- **A quoted text can be told from what stands behind it.** -/
theorem enclosed_append_inj {delimiter : Char} (quote : isDelimiter delimiter = true)
    {text other rest more : List Char}
    (same : enclosed delimiter text ++ rest = enclosed delimiter other ++ more) :
    text = other ∧ rest = more := by
  simp only [enclosed, List.cons_append, List.append_assoc, List.cons_inj_right,
    List.nil_append] at same
  -- character by character; the delimiter that ends the one text ends the other
  induction text generalizing other with
  | nil =>
    rcases other with - | ⟨d, other⟩
    · simpa using same
    · rw [List.flatMap_cons, List.append_assoc] at same
      exact absurd (congrArg List.head? same.symm) (head?_escaped_append quote d _)
  | cons c text ih =>
    rw [List.flatMap_cons, List.append_assoc] at same
    rcases other with - | ⟨d, other⟩
    · exact absurd (congrArg List.head? same) (head?_escaped_append quote c _)
    · rw [List.flatMap_cons, List.append_assoc] at same
      have read := congrArg readEscaped same
      rw [readEscaped_escaped quote, readEscaped_escaped quote, Option.some.injEq,
        Prod.mk.injEq] at read
      obtain ⟨rfl, behind⟩ := read
      obtain ⟨rfl, rfl⟩ := ih behind
      exact ⟨rfl, rfl⟩

theorem quotedText_inj {text other : String} :
    quotedText text = quotedText other ↔ text = other := by
  refine ⟨?_, congrArg quotedText⟩
  intro same
  have chars := congrArg (fun quoted => quoted.toList ++ []) same
  simp only [quotedText, String.toList_ofList] at chars
  exact String.toList_inj.mp (enclosed_append_inj (by decide) chars).1

/-! ### Quotes behind a text -/

/-- A delimiter is written for a character only behind a backslash. -/
theorem escaped_of_mem {delimiter c : Char} (quote : isDelimiter delimiter = true)
    (mem : delimiter ∈ escaped delimiter c) : escaped delimiter c = ['\\', delimiter] := by
  have backslash : delimiter ≠ '\\' := by
    rintro rfl
    cases quote
  have written := escapedAs_escaped delimiter c
  generalize escaped delimiter c = text at written mem ⊢
  cases written with
  | short _ =>
    rcases List.mem_cons.mp mem with first | second
    · exact absurd first backslash
    · rw [List.mem_singleton.mp second]
  | delimiter => rfl
  | number _ =>
    have others : ∀ d ∈ numbered c, isDelimiter d = false := by
      have digits : ∀ k < 16, isDelimiter (Nat.digitChar k) = false := by decide
      simp only [numbered, List.mem_append]
      rintro d ((opening | digit) | closing)
      · simp only [List.mem_cons, List.not_mem_nil, or_false] at opening
        rcases opening with rfl | rfl | rfl <;> decide
      · obtain ⟨k, small, rfl⟩ := exists_digitChar_of_mem_toDigits (by decide) digit
        exact digits k small
      · rw [List.mem_singleton.mp closing]
        decide
    rw [others delimiter mem] at quote
    cases quote
  | plain _ own _ => exact absurd (List.mem_singleton.mp mem).symm own

/-- So every delimiter in a text between delimiters stands behind a backslash. -/
theorem getLast?_of_flatMap_escaped {delimiter : Char} (quote : isDelimiter delimiter = true)
    {text front back : List Char}
    (found : text.flatMap (escaped delimiter) = front ++ delimiter :: back) :
    front.getLast? = some '\\' := by
  induction text generalizing front with
  | nil => simp at found
  | cons c text ih =>
    rw [List.flatMap_cons] at found
    rcases List.append_eq_append_iff.mp found with ⟨more, rfl, later⟩ | ⟨here, own, later⟩
    · -- it is found behind what is written for the first character
      rw [List.getLast?_append, ih later]
      rfl
    · rcases here with - | ⟨d, here⟩
      · have before : ([] : List Char).getLast? = some '\\' := ih later.symm
        cases before
      · -- it is found in what is written for the first character
        obtain ⟨rfl, -⟩ := List.cons.inj later
        have pair := escaped_of_mem quote (c := c) (by simp [own])
        rw [own] at pair
        rcases front with - | ⟨e, - | ⟨f, front⟩⟩
        · cases pair
          cases quote
        · cases pair
          rfl
        · simp at pair

/-- The opening delimiter with a character before it that is no backslash is not found
again further on in the text. -/
theorem eq_nil_of_opening {delimiter c : Char} (quote : isDelimiter delimiter = true)
    (ne : c ≠ '\\') {longer text other : List Char}
    (shared : c :: delimiter :: text.flatMap (escaped delimiter)
      = longer ++ c :: delimiter :: other.flatMap (escaped delimiter)) : longer = [] := by
  rcases longer with - | ⟨d, - | ⟨e, longer⟩⟩
  · rfl
  · simp only [List.cons_append, List.nil_append, List.cons.injEq] at shared
    have before : ([] : List Char).getLast? = some '\\' :=
      getLast?_of_flatMap_escaped quote shared.2.2
    cases before
  · simp only [List.cons_append, List.cons.injEq] at shared
    have within := shared.2.2
    rw [List.append_cons] at within
    have before := getLast?_of_flatMap_escaped quote within
    rw [List.getLast?_concat] at before
    exact absurd (Option.some.inj before) ne

/-- **A quoted text can be told from what stands before it**, if a character that is no
backslash stands between. -/
theorem append_enclosed_inj {delimiter c : Char} (quote : isDelimiter delimiter = true)
    (ne : c ≠ '\\') {front more text other : List Char}
    (same : front ++ c :: enclosed delimiter text = more ++ c :: enclosed delimiter other) :
    front = more ∧ text = other := by
  have alike : front = more := by
    -- the closing delimiter is left out, as it would pass for an opening one
    have opened : front ++ c :: delimiter :: text.flatMap (escaped delimiter)
        = more ++ c :: delimiter :: other.flatMap (escaped delimiter) := by
      rw [← List.append_left_inj [delimiter]]
      simpa only [enclosed, List.append_assoc, List.cons_append] using same
    rcases List.append_eq_append_iff.mp opened with ⟨longer, rfl, shared⟩ | ⟨longer, rfl, shared⟩
    · rw [eq_nil_of_opening quote ne shared, List.append_nil]
    · rw [eq_nil_of_opening quote ne shared, List.append_nil]
  subst alike
  rw [List.append_right_inj, List.cons_inj_right, ← List.append_nil (enclosed delimiter text),
    ← List.append_nil (enclosed delimiter other)] at same
  exact ⟨rfl, (enclosed_append_inj quote same).1⟩

/-! ### Showing -/

/-- Whether every character of a text is printable. -/
def isPlain (text : List Char) : Bool :=
  text.all fun c => !isUnprintable c

theorem isPlain_iff {text : List Char} :
    isPlain text = true ↔ ∀ c ∈ text, isUnprintable c = false := by
  simp [isPlain]

theorem isPlain_append (front back : List Char) :
    isPlain (front ++ back) = (isPlain front && isPlain back) :=
  List.all_append

theorem isPlain_toDigits {base n : Nat} (more : 1 < base) (small : base ≤ 16) :
    isPlain (Nat.toDigits base n) = true := by
  have digits : ∀ k < 16, isUnprintable (Nat.digitChar k) = false := by decide
  rw [isPlain_iff]
  intro c mem
  obtain ⟨k, below, rfl⟩ := exists_digitChar_of_mem_toDigits more mem
  exact digits k (Nat.lt_of_lt_of_le below small)

/-- What is written for a character is printable. -/
theorem isPlain_escaped {delimiter : Char} (quote : isDelimiter delimiter = true) (c : Char) :
    isPlain (escaped delimiter c) = true := by
  have written := escapedAs_escaped delimiter c
  generalize escaped delimiter c = text at written ⊢
  cases written with
  | short listed =>
    have letters : shortForms.all (fun form => isPlain ['\\', form.2]) = true := by decide
    exact List.all_eq_true.mp letters _ listed
  | delimiter =>
    rcases isDelimiter_iff.mp quote with rfl | rfl <;> decide
  | number _ =>
    have opening : isPlain ['\\', 'u', '\x7b'] = true := by decide
    have closing : isPlain ['\x7d'] = true := by decide
    rw [numbered, isPlain_append, isPlain_append, opening, closing,
      isPlain_toDigits (by decide) (by decide)]
    rfl
  | plain _ _ printable => simp [isPlain, printable]

/-- **What stands in quotes is printable**, whatever is quoted. -/
theorem isPlain_enclosed {delimiter : Char} (quote : isDelimiter delimiter = true)
    (text : List Char) : isPlain (enclosed delimiter text) = true := by
  have edge : isPlain [delimiter] = true := by
    rcases isDelimiter_iff.mp quote with rfl | rfl <;> decide
  have body : isPlain (text.flatMap (escaped delimiter)) = true := by
    rw [isPlain, List.all_flatMap, List.all_eq_true]
    intro c _
    exact isPlain_escaped quote c
  show isPlain ([delimiter] ++ text.flatMap (escaped delimiter) ++ [delimiter]) = true
  rw [isPlain_append, isPlain_append, edge, body]
  rfl

end ScriptLexer
