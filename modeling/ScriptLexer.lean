import ScriptLexer.Alphabet
import ScriptLexer.CommandLine
import ScriptLexer.Diagnostic.Basic
import ScriptLexer.Diagnostic.Fault
import ScriptLexer.Layout
import ScriptLexer.Lexeme
import ScriptLexer.LineEditor
import ScriptLexer.Main
import ScriptLexer.Outcome
import ScriptLexer.Scanner.Basic
import ScriptLexer.Scanner.Describe
import ScriptLexer.Scanner.Event
import ScriptLexer.Scanner.Pool
import ScriptLexer.Scanner.Pull
import ScriptLexer.Scanner.Reachable
import ScriptLexer.Scanner.Remainder
import ScriptLexer.Scanner.Stream
import ScriptLexer.Scanner.Unread
import ScriptLexer.Session
import ScriptLexer.Source.Basic
import ScriptLexer.Source.Failure
import ScriptLexer.Source.FileTree
import ScriptLexer.Text.Backspace
import ScriptLexer.Text.Blank
import ScriptLexer.Text.Cluster
import ScriptLexer.Text.CodeSet
import ScriptLexer.Text.Elapsed
import ScriptLexer.Text.Joining
import ScriptLexer.Text.Pictograph
import ScriptLexer.Text.Quoted
import ScriptLexer.Text.Record
import ScriptLexer.Text.Syllable
import ScriptLexer.Text.Unprintable
import ScriptLexer.Token.Basic
import ScriptLexer.Token.Kind
import ScriptLexer.Token.WellFormed
import ScriptLexer.Proofs.Alphabet
import ScriptLexer.Proofs.Lexeme
import ScriptLexer.Proofs.Layout
import ScriptLexer.Proofs.Concatenation
import ScriptLexer.Proofs.Pool
import ScriptLexer.Proofs.Remainder
import ScriptLexer.Proofs.Bounds
import ScriptLexer.Proofs.Foreign
import ScriptLexer.Proofs.Log
import ScriptLexer.Proofs.Pulls
import ScriptLexer.Proofs.Relexing
import ScriptLexer.Proofs.Listing
import ScriptLexer.Proofs.Lines
import ScriptLexer.Proofs.FileRun
import ScriptLexer.Proofs.LineByLine
import ScriptLexer.Proofs.Sessions
import ScriptLexer.Proofs.Progress
import ScriptLexer.Proofs.Quoted
import ScriptLexer.Proofs.Resuming
import ScriptLexer.Proofs.LogRecovery
import ScriptLexer.Proofs.HiddenLines
import ScriptLexer.Proofs.Messages
import ScriptLexer.Proofs.Reports
import ScriptLexer.Proofs.Vocabulary
import ScriptLexer.Proofs.Record
import ScriptLexer.Proofs.Describe
import ScriptLexer.Proofs.Runs
import ScriptLexer.Proofs.Verdict
