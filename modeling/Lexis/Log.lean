import Lexis.Scan
import Lexis.Text.Quoted

/-!
# The log of a scan

A scan can be followed token by token. Its log tells each token where it starts, then either the
place at which no kind fits or how many tokens were found.
-/

namespace Lexis.Log

inductive Level where
  | trace
  | debug
  | warn
  deriving DecidableEq, Repr

namespace Level

def name : Level → String
  | .trace => "TRACE"
  | .debug => "DEBUG"
  | .warn => "WARN"

def severity : Level → Nat
  | .trace => 0
  | .debug => 1
  | .warn => 2

end Level

structure Entry where
  level : Level
  message : String
  deriving DecidableEq, Repr

def place (line column : Nat) : String :=
  toString line ++ ":" ++ toString column

def ofToken (token : Token) : Entry where
  level := .trace
  message := token.kind.name ++ " " ++ Text.quote token.value ++ " at " ++
    place token.line token.column

def ofError (error : ScanError) : Entry where
  level := .warn
  message := error.position.file ++ ": no rule matches " ++
    Text.quoteChar (error.character.toList.headD '\x00') ++ " at " ++ place error.line error.column

/-- The entry that sums up the tokens of a whole text. -/
def summary (content : String) (tokens : List Token) : Entry where
  level := .debug
  message := "tokenized " ++ toString (Text.size content.toList) ++ " bytes: " ++
    toString (Token.significant tokens).length ++ " significant, " ++
    toString (tokens.filter Token.isTrivia).length ++ " auxiliary"

/-- The log of a scan that keeps every token. -/
def ofScan (scan : Scan) : List Entry :=
  scan.tokens.map ofToken ++ (scan.failure?.map ofError).toList

/-- The log of a scan that keeps the tokens that carry meaning. -/
def ofSource (source : Source) : List Entry :=
  let scan := source.scan
  ofScan scan ++
    match scan.failure? with
    | none => [summary source.content scan.tokens]
    | some _ => []

end Lexis.Log
