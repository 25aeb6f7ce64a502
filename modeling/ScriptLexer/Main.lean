/-
ScriptLexer/Main.lean

The program.  All that is done here is to fetch what a run finds around it (the
bytes of a file, the lines of the input, the name of the terminal, the clock) and
to write what the run comes to; the rest is `ScriptLexer.CommandLine` and
`ScriptLexer.Session`.
-/
import ScriptLexer.CommandLine
import ScriptLexer.Text.Elapsed

namespace ScriptLexer.Program

/-! ### Writing -/

/-- Writes what a run comes to, and gives its status. -/
def deliver (outcome : Outcome) : IO UInt32 := do
  (← IO.getStdout).putStr outcome.stdout
  (← IO.getStdout).flush
  (← IO.getStderr).putStr outcome.stderr
  return outcome.status.toUInt32

/-! ### A file -/

/-- The reason for which the system refused. -/
def refusal : IO.Error → ReadFailure
  | .alreadyExists _ number reason => .refused reason number.toNat
  | .otherError number reason => .refused reason number.toNat
  | .resourceBusy number reason => .refused reason number.toNat
  | .resourceVanished number reason => .refused reason number.toNat
  | .unsupportedOperation number reason => .refused reason number.toNat
  | .hardwareFault number reason => .refused reason number.toNat
  | .unsatisfiedConstraints number reason => .refused reason number.toNat
  | .illegalOperation number reason => .refused reason number.toNat
  | .protocolError number reason => .refused reason number.toNat
  | .timeExpired number reason => .refused reason number.toNat
  | .interrupted _ number reason => .refused reason number.toNat
  | .noFileOrDirectory _ number reason => .refused reason number.toNat
  | .invalidArgument _ number reason => .refused reason number.toNat
  | .permissionDenied _ number reason => .refused reason number.toNat
  | .resourceExhausted _ number reason => .refused reason number.toNat
  | .inappropriateType _ number reason => .refused reason number.toNat
  | .noSuchThing _ number reason => .refused reason number.toNat
  | .unexpectedEof => .refused "unexpected end of file" 0
  | .userError reason => .refused reason 0

/-- The bytes of a file. -/
def readFile (path : String) : IO (Except ReadFailure ByteArray) := do
  try
    return .ok (← IO.FS.withFile path .read fun handle => handle.readBinToEnd)
  catch problem =>
    return .error (refusal problem)

/-- Lists a file and measures how long lexing takes. -/
def runFile (path : String) : IO UInt32 := do
  let bytes ← readFile path
  let begun ← IO.monoNanosNow
  let lexed ← IO.lazyPure fun _ => CommandLine.lexFile (fun _ => bytes) path
  let ended ← IO.monoNanosNow
  match lexed with
  | .ok tokens => deliver (CommandLine.listFile path (elapsedText (ended - begun)) tokens)
  | .error d => deliver (Outcome.ending "" (some d))

/-! ### A session -/

/-- Reads up to a line feed or the end of the input; `line` is what has been read,
backwards. -/
partial def nextLine (input : IO.FS.Stream) (line : List UInt8) : IO (List UInt8) := do
  match (← input.read 1).data.toList with
  | byte :: _ =>
    if byte = LineEditor.lineFeed then return (byte :: line).reverse
    else nextLine input (byte :: line)
  | [] => return line.reverse

/-- Takes the turns of `Session.converse`, over lines as they come. -/
partial def converse (editor : LineEditor) (prompting : String)
    (input output : IO.FS.Stream) : IO UInt32 := do
  output.putStr prompting
  output.flush
  let bytes ← nextLine input []
  if bytes.isEmpty then return 0
  match Session.turn (editor.reading bytes) with
  | .goesOn shown =>
    output.putStr (linesText shown)
    converse editor prompting input output
  | .ends verdict => deliver (Outcome.ending "" verdict)

/-- A session on the standard input, which is taken for no terminal. -/
def runSession : IO UInt32 := do
  let terminal := (← IO.getEnv "TERM").getD ""
  let editor := LineEditor.piped
  converse editor (editor.prompting terminal Session.prompt) (← IO.getStdin) (← IO.getStdout)

end ScriptLexer.Program

/-- Runs the program on its arguments. -/
def main (arguments : List String) : IO UInt32 := do
  match arguments with
  | [] => ScriptLexer.Program.runSession
  | [path] => ScriptLexer.Program.runFile path
  | _ =>
    let nowhere : ScriptLexer.Environment :=
      { read := fun _ => .error .notFound, stdin := .empty, terminal := "" }
    ScriptLexer.Program.deliver (ScriptLexer.CommandLine.run arguments nowhere "")
