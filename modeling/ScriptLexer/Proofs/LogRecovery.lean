/-
ScriptLexer/Proofs/LogRecovery.lean

The log of a text can be read back, and no text can spoil it.

What a message has from the text stands in quotes, and is printable there.  So a message
shows all that is in it, on one line (`Event.isPlain_message`).

A record determines its event (`Event.record_injective`).  The level says which of the
two it is.  An announcement has its character in quotes, which can be told from what
stands behind them, and that ends with the offset.  A trace begins with the name of a
kind, which is letters, so it ends at the space.

The events of a text are in two parts that do not get in each other's way.  Without the
announcements they are the tokens (`filterMap_token?_eventsOf`), without the traces they
are the places of the illegal ones (`filterMap_place?_eventsOf`).  So texts with the same
log have the same of both.  The log tells no more than that (`logOf_lossless`): where
the other tokens stand is not in it.
-/
import ScriptLexer.Proofs.Listing
import ScriptLexer.Proofs.Log
import ScriptLexer.Proofs.Quoted

namespace ScriptLexer

/-! ### Messages -/

/-- The characters at which a text is broken into lines, in one convention or another. -/
def lineBreaks : List Char :=
  ['\n', '\x0b', '\x0c', '\r', '\x85', '\u2028', '\u2029']

/-- A printable character is none at which a line ends, and no control. -/
theorem not_control_of_printable {c : Char} (printable : isUnprintable c = false) :
    c ∉ lineBreaks ∧ 0x20 ≤ c.toNat ∧ c.toNat ≠ 0x7f := by
  refine ⟨?_, ?_, ?_⟩
  · intro mem
    have hidden : lineBreaks.all isUnprintable = true := by decide +kernel
    rw [List.all_eq_true.mp hidden c mem] at printable
    cases printable
  · apply Nat.le_of_not_lt
    intro low
    rw [isUnprintable_of_lt low] at printable
    cases printable
  · intro delete
    have hidden : isUnprintable '\x7f' = true := by decide
    obtain rfl : c = '\x7f' := Char.toNat_inj.mp delete
    rw [hidden] at printable
    cases printable

theorem Kind.isPlain_name (kind : Kind) : isPlain kind.name.toList = true := by
  have key : Kind.all.all (fun kind => isPlain kind.name.toList) = true := by decide
  exact List.all_eq_true.mp key kind kind.mem_all

namespace Event

theorem toList_message_illegal (c : Char) (offset : Nat) :
    (illegal c offset).message.toList
      = "illegal character ".toList
        ++ (enclosed '\'' [c] ++ (" at offset ".toList ++ Nat.toDigits 10 offset)) := by
  show ("illegal character " ++ quotedChar c ++ " at offset " ++ toString offset).toList = _
  simp only [quotedChar, String.toList_append, String.toList_ofList, Nat.toString_eq_repr,
    Nat.toList_repr, List.append_assoc]

theorem toList_message_token (t : Token) :
    (token t).message.toList = t.kind.name.toList ++ ' ' :: enclosed '"' t.literal.toList := by
  have space : " ".toList = [' '] := by decide
  show (t.kind.name ++ " " ++ quotedText t.literal).toList = _
  simp only [quotedText, String.toList_append, String.toList_ofList, space, List.append_assoc,
    List.singleton_append]

/-- **A message is printable**, whatever stands in the text. -/
theorem isPlain_message (event : Event) : isPlain event.message.toList = true := by
  cases event with
  | illegal c offset =>
    have before : isPlain "illegal character ".toList = true := by decide +kernel
    have between : isPlain " at offset ".toList = true := by decide +kernel
    rw [toList_message_illegal, isPlain_append, isPlain_append, isPlain_append, before, between,
      isPlain_enclosed (by decide), isPlain_toDigits (by decide) (by decide)]
    rfl
  | token t =>
    have space : isPlain [' '] = true := by decide
    rw [toList_message_token, ← List.singleton_append, isPlain_append, isPlain_append,
      t.kind.isPlain_name, space, isPlain_enclosed (by decide)]
    rfl

/-! ### Records -/

/-- The record of an event in the log. -/
def record (event : Event) : String × String :=
  (event.level.name, event.message)

/-- **A record determines its event.** -/
theorem record_injective {a b : Event} (same : a.record = b.record) : a = b := by
  have levels : a.level.name = b.level.name := congrArg Prod.fst same
  have messages : a.message.toList = b.message.toList :=
    congrArg (fun record => record.2.toList) same
  cases a with
  | illegal c offset =>
    cases b with
    | illegal d other =>
      rw [toList_message_illegal, toList_message_illegal, List.append_right_inj] at messages
      obtain ⟨chars, behind⟩ := enclosed_append_inj (by decide) messages
      rw [List.append_right_inj, toDigits_ten_inj] at behind
      rw [List.head_eq_of_cons_eq chars, behind]
    | token u =>
      have apart : Level.debug.name ≠ Level.trace.name := by decide
      exact absurd levels apart
  | token t =>
    cases b with
    | illegal d other =>
      have apart : Level.trace.name ≠ Level.debug.name := by decide
      exact absurd levels apart
    | token u =>
      rw [toList_message_token, toList_message_token] at messages
      obtain ⟨kinds, quoted⟩ := Kind.name_append_inj messages
      have literals : quotedText t.literal = quotedText u.literal := congrArg String.ofList quoted
      obtain ⟨kind, literal⟩ := t
      obtain rfl : kind = u.kind := kinds
      obtain rfl : literal = u.literal := quotedText_inj.mp literals
      rfl

end Event

/-! ### The two parts of the events -/

namespace Event

/-- The token that has been read. -/
def token? : Event → Option Token
  | token t => some t
  | illegal _ _ => none

/-- The place that is announced. -/
def place? : Event → Option (Char × Nat)
  | illegal c offset => some (c, offset)
  | token _ => none

end Event

namespace Placed

theorem filterMap_token?_events (p : Placed) : p.events.filterMap Event.token? = [p.token] := by
  rcases bad : p.token.isIllegal with - | -
  · simp [events, bad, Event.token?]
  · simp [events, bad, Event.token?, Function.comp_def]

theorem filterMap_place?_flatMap_events (placed : List Placed) :
    (placed.flatMap events).filterMap Event.place?
      = (placed.filter fun p => p.token.isIllegal).flatMap fun p =>
          p.token.literal.toList.map fun c => (c, p.offset) := by
  induction placed with
  | nil => rfl
  | cons p placed ih =>
    rw [List.flatMap_cons, List.filterMap_append, ih]
    rcases bad : p.token.isIllegal with - | -
    · rw [List.filter_cons_of_neg (by simp [bad])]
      simp [events, bad, Event.place?]
    · rw [List.filter_cons_of_pos (by simp [bad]), List.flatMap_cons]
      simp [events, bad, Event.place?, Function.comp_def]

/-- What is reported of tokens depends on the places of the illegal ones only. -/
theorem flatMap_events_eq {placed others : List Placed}
    (tokens : placed.map token = others.map token)
    (illegals : (placed.filter fun p => p.token.isIllegal)
      = others.filter fun p => p.token.isIllegal) :
    placed.flatMap events = others.flatMap events := by
  induction placed generalizing others with
  | nil =>
    obtain rfl := List.map_eq_nil_iff.mp tokens.symm
    rfl
  | cons p placed ih =>
    obtain ⟨q, rest, rfl, first, later⟩ := List.map_eq_cons_iff.mp tokens.symm
    rw [List.flatMap_cons, List.flatMap_cons]
    rcases bad : p.token.isIllegal with - | -
    · rw [List.filter_cons_of_neg (by simp [bad]), List.filter_cons_of_neg (by simp [first, bad])]
        at illegals
      rw [ih later.symm illegals]
      simp [events, bad, first]
    · rw [List.filter_cons_of_pos (by simp [bad]), List.filter_cons_of_pos (by simp [first, bad]),
        List.cons.injEq] at illegals
      rw [ih later.symm illegals.2, illegals.1]

end Placed

/-! ### Reading a log -/

/-- The illegal tokens of a text, each at its place. -/
def placedIllegals (source : String) : List Placed :=
  (placedTokens source).filter fun p => p.token.isIllegal

section Text

variable (source : String)

theorem placedIllegals_eq :
    placedIllegals source
      = (foreignPlaces 0 source.toList).map fun place =>
          ⟨⟨.illegal, String.singleton place.1⟩, place.2⟩ := by
  -- an illegal token is known by its literal
  have known : ∀ p ∈ placedIllegals source, Placed.mk ⟨.illegal, p.token.literal⟩ p.offset = p := by
    intro p mem
    obtain ⟨-, bad⟩ := List.mem_filter.mp mem
    obtain ⟨⟨kind, literal⟩, offset⟩ := p
    rw [Token.isIllegal, beq_iff_eq] at bad
    rw [← bad]
  have remade := congrArg
    (List.map fun place : String × Nat => Placed.mk ⟨.illegal, place.1⟩ place.2)
    (illegal_placedTokens source)
  rw [List.map_map, List.map_map] at remade
  exact ((List.map_congr_left known).trans (List.map_id' _)).symm.trans remade

/-- Without the announcements, the events are the tokens. -/
theorem filterMap_token?_eventsOf :
    (eventsOf source).filterMap Event.token? = lexemes source.toList := by
  rw [eventsOf_eq_flatMap, List.filterMap_flatMap, funext Placed.filterMap_token?_events,
    ← map_token_placedTokens, List.map_eq_flatMap]

/-- Without the traces, the events are the places of the foreign characters. -/
theorem filterMap_place?_eventsOf :
    (eventsOf source).filterMap Event.place? = foreignPlaces 0 source.toList := by
  rw [eventsOf_eq_flatMap, Placed.filterMap_place?_flatMap_events, ← placedIllegals,
    placedIllegals_eq, List.flatMap_map]
  simp only [String.toList_singleton, List.map_cons, List.map_nil]
  exact List.flatMap_singleton' _

end Text

theorem logOf_inj {source other : String} :
    logOf source = logOf other ↔ eventsOf source = eventsOf other :=
  List.map_inj_right fun _ _ => Event.record_injective

/-- **The log is lossless, and no text can spoil it.**  Its messages are single lines of
printable characters.  Texts with the same log have the same tokens, and their illegal
ones stand at the same places; and that is all there is in it. -/
theorem logOf_lossless (source : String) :
    (∀ record ∈ logOf source, ∀ c ∈ record.2.toList,
        c ∉ lineBreaks ∧ 0x20 ≤ c.toNat ∧ c.toNat ≠ 0x7f ∧ isUnprintable c = false)
      ∧ ∀ other, logOf source = logOf other ↔
          tokenize source = tokenize other ∧ placedIllegals source = placedIllegals other := by
  refine ⟨?_, ?_⟩
  · intro record mem c within
    obtain ⟨event, -, rfl⟩ := List.mem_map.mp mem
    have printable := isPlain_iff.mp event.isPlain_message c within
    obtain ⟨noBreak, noControl, noDelete⟩ := not_control_of_printable printable
    exact ⟨noBreak, noControl, noDelete, printable⟩
  · intro other
    rw [logOf_inj, tokenize_eq, tokenize_eq, List.append_left_inj]
    constructor
    · intro same
      rw [← filterMap_token?_eventsOf, ← filterMap_token?_eventsOf, placedIllegals_eq,
        placedIllegals_eq, ← filterMap_place?_eventsOf, ← filterMap_place?_eventsOf, same]
      exact ⟨rfl, rfl⟩
    · rintro ⟨tokens, illegals⟩
      rw [← map_token_placedTokens, ← map_token_placedTokens] at tokens
      rw [eventsOf_eq_flatMap, eventsOf_eq_flatMap]
      exact Placed.flatMap_events_eq tokens illegals

/-- An escape character and a line separator are logged by number.  Which blank stands in
front of them does not show in the log, how many do. -/
theorem logOf_lossless_of_blanks :
    (∀ record ∈ logOf "a \x1b\u2028", ∀ c ∈ record.2.toList, isUnprintable c = false)
      ∧ logOf "a \x1b\u2028" = logOf "a\n\x1b\u2028\t"
      ∧ logOf "a \x1b\u2028" ≠ logOf "a\x1b\u2028" := by
  obtain ⟨plain, same⟩ := logOf_lossless "a \x1b\u2028"
  refine ⟨?_, ?_, ?_⟩
  · intro record mem c within
    exact (plain record mem c within).2.2.2
  · rw [same]
    decide +kernel
  · rw [Ne, same]
    decide +kernel

end ScriptLexer
