import Lexis.Command.FileTree
import Lexis.Command.Options
import Lexis.Diagnostic
import Lexis.Log

/-!
# The command

The command reads one file and prints its tokens, one on a line, or the error at which the scan
stops. How files are read is a parameter, so that the command can be run on the files of a machine
and on a directory held in memory alike.
-/

namespace Lexis.Command

/-- What a run of the command leaves behind. -/
structure Outcome where
  code : Nat
  stdout : String
  stderr : String
  deriving DecidableEq, Repr

def helpText : String :=
  String.join (List.map (· ++ "\n")
    ["Tokenizes a Java-like source file and prints one token per line",
      "",
      "Usage: javalex [OPTIONS] [INPUT]",
      "",
      "Arguments:",
      "  [INPUT]  Source file to tokenize [default: input.txt]",
      "",
      "Options:",
      "      --all      Also print comments, whitespace, tabs and newlines",
      "  -v, --verbose  Log at debug level unless RUST_LOG says otherwise",
      "  -h, --help     Print help",
      "  -V, --version  Print version"])

def versionText : String :=
  "javalex 0.1.0\n"

namespace Outcome

def shown (text : String) : Outcome where
  code := 0
  stdout := text
  stderr := ""

def misused (error : UsageError) : Outcome where
  code := 2
  stdout := ""
  stderr := "error: " ++ error.message ++ "\n"

def unread (path : String) (failure : ReadFailure) : Outcome where
  code := 1
  stdout := ""
  stderr := "Error: failed to read " ++ path ++ "\n\nCaused by:\n    " ++ failure.message ++ "\n"

/-- The part of a log that is shown: warnings, and with `verbose` also what matters for debugging.
-/
def shownLog (verbose : Bool) (log : List Log.Entry) : String :=
  let threshold := if verbose then Log.Level.debug else Log.Level.warn
  String.join ((log.filter (threshold.severity ≤ ·.level.severity)).map fun entry =>
    "[" ++ entry.level.name ++ "] " ++ entry.message ++ "\n")

/-- A run that has read its file, but broken down before it could show anything. -/
def brokenDown (breakdown : Breakdown) : Outcome where
  code := 101
  stdout := ""
  stderr := breakdown.message ++ "\n"

def ofContent (options : Options) (content : String) : Outcome :=
  let source := Source.named (Path.fileName? options.input) content
  let log := if options.all then Log.ofScan source.scan else Log.ofSource source
  let answer := if options.all then source.checkedTokens else source.checkedSignificantTokens
  match answer with
  | .error breakdown => .brokenDown breakdown
  | .ok (.ok tokens) =>
      { code := 0
        stdout := String.join (tokens.map (·.display ++ "\n"))
        stderr := shownLog options.verbose log }
  | .ok (.error error) =>
      { code := 1
        stdout := error.message ++ "\n" ++ error.diagnostic.render content
        stderr := shownLog options.verbose log }

end Outcome

/-- Runs the command with the given arguments, reading files in the given way. -/
def run {m : Type → Type} [Monad m] (read : String → m (Except ReadFailure String))
    (arguments : List String) : m Outcome :=
  match parseArguments arguments with
  | .error .help => pure (.shown helpText)
  | .error .version => pure (.shown versionText)
  | .error (.refused error) => pure (.misused error)
  | .ok options => do
      match ← read options.input with
      | .ok content => pure (.ofContent options content)
      | .error failure => pure (.unread options.input failure)

end Lexis.Command
