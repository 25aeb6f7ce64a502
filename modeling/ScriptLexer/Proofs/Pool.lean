/-
ScriptLexer/Proofs/Pool.lean

Two kinds of token source, run beside each other.

A relation between the members of two sources that every single request keeps,
and under which every single request is answered alike (`Simulates`), makes whole
pools answer alike, to any commands in any order, with members copied and begun
on the way (`Simulates.runAll_eq`).  Nothing about pools has to be known to use
this: it is enough to look at one member and one request.

In the same way, what every request keeps of a member (`Keeps`) is kept by a pool,
whatever the commands and whatever members they are addressed to
(`Keeps.exists_after`); and what holds of new members besides holds of all
members ever (`Keeps.forall_after`).
-/
import Mathlib.Data.List.Forall2
import ScriptLexer.Scanner.Pool

namespace ScriptLexer

variable {σ τ : Type}

/-! ### The pool after commands -/

namespace Pool

/-- The pool after commands. -/
def after (source : TokenSource σ) : Pool σ → List (Nat × Command) → Pool σ
  | pool, [] => pool
  | pool, (on, command) :: rest =>
    match pool.run? source on command with
    | some (_, next) => after source next rest
    | none => after source pool rest

end Pool

/-! ### Simulation -/

/-- The same answer, and related members after it. -/
def Alike {α : Type} (R : σ → τ → Prop) (x : α × σ) (y : α × τ) : Prop :=
  x.1 = y.1 ∧ R x.2 y.2

/-- Related members answer every request alike. -/
structure Simulates (source : TokenSource σ) (model : TokenSource τ) (R : σ → τ → Prop) :
    Prop where
  ofString : ∀ text, R (source.ofString text) (model.ofString text)
  pull : ∀ {s r}, R s r → Alike R (source.pull s) (model.pull r)
  next : ∀ {s r}, R s r → Alike R (source.next s) (model.next r)
  nth : ∀ n {s r}, R s r → Alike R (source.nth n s) (model.nth n r)
  collect : ∀ {s r}, R s r → Alike R (source.collect s) (model.collect r)

theorem forall₂_set {R : σ → τ → Prop} {xs : List σ} {ys : List τ} (h : List.Forall₂ R xs ys)
    {x : σ} {y : τ} (related : R x y) (i : Nat) :
    List.Forall₂ R (xs.set i x) (ys.set i y) := by
  induction h generalizing i with
  | nil => exact .nil
  | cons first _ ih =>
    cases i with
    | zero => exact .cons related ‹_›
    | succ i => exact .cons first (ih i)

theorem forall₂_getElem? {R : σ → τ → Prop} {xs : List σ} {ys : List τ}
    (h : List.Forall₂ R xs ys) (i : Nat) : Option.Rel R xs[i]? ys[i]? := by
  induction h generalizing i with
  | nil => exact .none
  | cons first _ ih =>
    cases i with
    | zero => exact .some first
    | succ i => exact ih i

namespace Simulates

variable {source : TokenSource σ} {model : TokenSource τ} {R : σ → τ → Prop}

/-- One command, addressed to related members of related pools. -/
theorem answer (sim : Simulates source model R) {pool : Pool σ} {pool' : Pool τ}
    (pools : List.Forall₂ R pool pool') {s : σ} {r : τ} (members : R s r) (on : Nat)
    (command : Command) :
    Alike (List.Forall₂ R) (pool.answer source on s command)
      (pool'.answer model on r command) := by
  have update {s : σ} {r : τ} (h : R s r) := forall₂_set pools h on
  have add {s : σ} {r : τ} (h : R s r) : List.Forall₂ R (pool ++ [s]) (pool' ++ [r]) :=
    List.rel_append pools (.cons h .nil)
  have number : Answer.number pool.length = .number pool'.length := by
    rw [pools.length_eq]
  cases command with
  | pull => exact ⟨congrArg Answer.token (sim.pull members).1, update (sim.pull members).2⟩
  | next => exact ⟨congrArg Answer.item (sim.next members).1, update (sim.next members).2⟩
  | nth n => exact ⟨congrArg Answer.item (sim.nth n members).1, update (sim.nth n members).2⟩
  | collect =>
    exact ⟨congrArg Answer.tokens (sim.collect members).1, update (sim.collect members).2⟩
  | copy => exact ⟨number, add members⟩
  | start text => exact ⟨number, add (sim.ofString text)⟩

/-- **Related pools answer all commands alike.** -/
theorem runAll_eq (sim : Simulates source model R) {pool : Pool σ} {pool' : Pool τ}
    (pools : List.Forall₂ R pool pool') (commands : List (Nat × Command)) :
    pool.runAll source commands = pool'.runAll model commands := by
  induction commands generalizing pool pool' with
  | nil => rfl
  | cons entry commands ih =>
    obtain ⟨on, command⟩ := entry
    -- a number that no member has in the one pool, no member has in the other
    have members := forall₂_getElem? pools on
    rcases here : pool[on]? with - | s
    · rw [here] at members
      rcases there : pool'[on]? with - | r
      · simp only [Pool.runAll, Pool.run?, here, there, Option.map_none]
        rw [ih pools]
      · rw [there] at members
        cases members
    · rw [here] at members
      rcases there : pool'[on]? with - | r
      · rw [there] at members
        cases members
      · rw [there] at members
        obtain ⟨same, next⟩ := sim.answer pools (Option.rel_some_some.mp members) on command
        simp only [Pool.runAll, Pool.run?, here, there, Option.map_some]
        rw [same, ih next]

end Simulates

/-! ### What requests keep -/

/-- No request takes the property from a member that has it. -/
structure Keeps (source : TokenSource σ) (P : σ → Prop) : Prop where
  pull : ∀ {s}, P s → P (source.pull s).2
  next : ∀ {s}, P s → P (source.next s).2
  nth : ∀ n {s}, P s → P (source.nth n s).2
  collect : ∀ {s}, P s → P (source.collect s).2

namespace Keeps

variable {source : TokenSource σ} {P : σ → Prop}

/-- A member that has the property has it after any command, to whomever. -/
theorem exists_answer (keeps : Keeps source P) {pool : Pool σ} {i on : Nat} {s t : σ}
    (member : pool[i]? = some s) (h : P s) (addressed : pool[on]? = some t) (command : Command) :
    ∃ s, (pool.answer source on t command).2[i]? = some s ∧ P s := by
  have inside : i < pool.length := (List.getElem?_eq_some_iff.mp member).1
  -- the member itself may have been asked, or another one
  have update {u : σ} (kept : P t → P u) : ∃ s, (pool.set on u)[i]? = some s ∧ P s := by
    by_cases self : on = i
    · subst self
      obtain rfl : s = t := Option.some.inj (member.symm.trans addressed)
      exact ⟨u, List.getElem?_set_self inside, kept h⟩
    · exact ⟨s, (List.getElem?_set_ne self).trans member, h⟩
  have add (u : σ) : ∃ s, (pool ++ [u])[i]? = some s ∧ P s :=
    ⟨s, (List.getElem?_append_left inside).trans member, h⟩
  cases command with
  | pull => exact update keeps.pull
  | next => exact update keeps.next
  | nth n => exact update (keeps.nth n)
  | collect => exact update keeps.collect
  | copy => exact add t
  | start text => exact add (source.ofString text)

/-- A member that has the property has it after any commands. -/
theorem exists_after (keeps : Keeps source P) {pool : Pool σ} {i : Nat}
    (h : ∃ s, pool[i]? = some s ∧ P s) (commands : List (Nat × Command)) :
    ∃ s, (pool.after source commands)[i]? = some s ∧ P s := by
  induction commands generalizing pool with
  | nil => exact h
  | cons entry commands ih =>
    obtain ⟨on, command⟩ := entry
    obtain ⟨s, member, has⟩ := h
    rcases addressed : pool[on]? with - | t
    · simp only [Pool.after, Pool.run?, addressed, Option.map_none]
      exact ih ⟨s, member, has⟩
    · simp only [Pool.after, Pool.run?, addressed, Option.map_some]
      exact ih (keeps.exists_answer member has addressed command)

/-- If new members have the property, all members ever have it. -/
theorem forall_after (keeps : Keeps source P) (ofString : ∀ text, P (source.ofString text))
    {pool : Pool σ} (h : ∀ s ∈ pool, P s) (commands : List (Nat × Command)) :
    ∀ s ∈ pool.after source commands, P s := by
  induction commands generalizing pool with
  | nil => exact h
  | cons entry commands ih =>
    obtain ⟨on, command⟩ := entry
    rcases addressed : pool[on]? with - | t
    · simp only [Pool.after, Pool.run?, addressed, Option.map_none]
      exact ih h
    · simp only [Pool.after, Pool.run?, addressed, Option.map_some]
      apply ih
      -- a command changes one member or adds one, which is a copy or a new one
      have has := h t (List.mem_of_getElem? addressed)
      have update {u : σ} (kept : P u) : ∀ s ∈ pool.set on u, P s := by
        intro s mem
        rcases List.mem_or_eq_of_mem_set mem with old | rfl
        · exact h s old
        · exact kept
      have add {u : σ} (new : P u) : ∀ s ∈ pool ++ [u], P s := by
        intro s mem
        rcases List.mem_append.mp mem with old | mem
        · exact h s old
        · obtain rfl := List.mem_singleton.mp mem
          exact new
      cases command with
      | pull => exact update (keeps.pull has)
      | next => exact update (keeps.next has)
      | nth n => exact update (keeps.nth n has)
      | collect => exact update (keeps.collect has)
      | copy => exact add has
      | start text => exact add (ofString text)

end Keeps

end ScriptLexer
