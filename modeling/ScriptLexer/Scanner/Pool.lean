/-
ScriptLexer/Scanner/Pool.lean

Several scanners at once.  A pool is a growing list; a command is addressed to a
member by its number, and a member that is copied or begun anew gets the next
number.

Nothing in a pool depends on how a member comes by its tokens.  So a pool is over
any `TokenSource`: the scanner is one, and whatever else answers the same
commands can be run beside it.
-/
import ScriptLexer.Scanner.Stream

namespace ScriptLexer

/-! ### Sources of tokens -/

/-- The ways of asking for tokens. -/
structure TokenSource (σ : Type) where
  /-- A source at the beginning of a text. -/
  ofString : String → σ
  /-- One token; at the end, the end token every time. -/
  pull : σ → Token × σ
  /-- One item of the stream, which ends after the end token. -/
  next : σ → Option Token × σ
  /-- The item after the next so many ones. -/
  nth : Nat → σ → Option Token × σ
  /-- The rest of the stream. -/
  collect : σ → List Token × σ

/-- The scanner as a source of tokens. -/
def Scanner.tokenSource : TokenSource Scanner where
  ofString := Scanner.ofString
  pull := fun s => (s.pull.token, s.pull.after)
  next := Scanner.next
  nth := Scanner.nth
  collect := Scanner.collect

/-! ### Commands -/

/-- What can be asked of a member of a pool. -/
inductive Command where
  | pull
  | next
  | nth (n : Nat)
  | collect
  /-- Add a copy of the member. -/
  | copy
  /-- Add a new member, whatever member is addressed. -/
  | start (source : String)
  deriving DecidableEq, Repr

/-- What a command is answered with. -/
inductive Answer where
  /-- A token that is always there. -/
  | token (t : Token)
  /-- An item of a stream, or nothing past its end. -/
  | item (t : Option Token)
  /-- The rest of a stream. -/
  | tokens (ts : List Token)
  /-- The number of a new member. -/
  | number (n : Nat)
  deriving DecidableEq, Repr

/-! ### Pools -/

/-- The members, by number. -/
abbrev Pool (σ : Type) := List σ

namespace Pool

variable {σ : Type}

/-- Runs a command on the member `s` with number `on`: the answer and the pool
after it. -/
def answer (source : TokenSource σ) (pool : Pool σ) (on : Nat) (s : σ) :
    Command → Answer × Pool σ
  | .pull => (.token (source.pull s).1, pool.set on (source.pull s).2)
  | .next => (.item (source.next s).1, pool.set on (source.next s).2)
  | .nth n => (.item (source.nth n s).1, pool.set on (source.nth n s).2)
  | .collect => (.tokens (source.collect s).1, pool.set on (source.collect s).2)
  | .copy => (.number pool.length, pool ++ [s])
  | .start text => (.number pool.length, pool ++ [source.ofString text])

/-- Runs a command, if the member it is addressed to exists. -/
def run? (source : TokenSource σ) (pool : Pool σ) (on : Nat) (command : Command) :
    Option (Answer × Pool σ) :=
  pool[on]?.map fun s => pool.answer source on s command

/-- Runs commands one after the other: the answer to each, or nothing for one
whose member does not exist, which changes nothing. -/
def runAll (source : TokenSource σ) : Pool σ → List (Nat × Command) → List (Option Answer)
  | _, [] => []
  | pool, (on, command) :: rest =>
    match pool.run? source on command with
    | some (reply, after) => some reply :: runAll source after rest
    | none => none :: runAll source pool rest

end Pool

end ScriptLexer
