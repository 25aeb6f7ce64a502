/-
ScriptLexer/Text/Elapsed.lean

Spans of time as text: in the largest unit of seconds, milliseconds, microseconds
and nanoseconds of which the span has at least one, with as many decimals as the
span needs.
-/

namespace ScriptLexer

/-- The number `n / 10 ^ places` in decimals, without zeros at the end. -/
def decimalText (n places : Nat) : String :=
  let unit := Nat.pow 10 places
  let digits := (Nat.toDigits 10 (unit + n % unit)).drop 1
  let kept := (digits.reverse.dropWhile (· == '0')).reverse
  let fraction := if kept.isEmpty then "" else "." ++ String.ofList kept
  toString (n / unit) ++ fraction

/-- A span of time, given in nanoseconds. -/
def elapsedText (nanoseconds : Nat) : String :=
  if nanoseconds ≥ 1000000000 then decimalText nanoseconds 9 ++ "s"
  else if nanoseconds ≥ 1000000 then decimalText nanoseconds 6 ++ "ms"
  else if nanoseconds ≥ 1000 then decimalText nanoseconds 3 ++ "µs"
  else toString nanoseconds ++ "ns"

end ScriptLexer
