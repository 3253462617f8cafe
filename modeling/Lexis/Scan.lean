import Lexis.Breakdown
import Lexis.ScanError

/-!
# Scanning a source

A scan reads a source from one of its places to the end, or to the first place at which no kind of
lexeme fits. The lexemes are found first (`lex`), without regard to where they stand, and then put
in their places one after the other (`place`). `allTokens` keeps every token, `significantTokens`
only those that carry meaning.

The offsets of these are numbers of any size. A program that reports them makes positions of 32 bits
of them one by one, and stops at the first offset that does not fit. That is what `checkedTokens`
and `checkedSignificantTokens` answer.
-/

namespace Lexis

namespace Lexeme

/-- The token of a lexeme that starts at a cursor. -/
def token (file : String) (cursor : Cursor) (lexeme : Lexeme) : Token where
  kind := lexeme.kind
  value := String.ofList lexeme.text
  span :=
    { start := { offset := cursor.offset, file := file }
      stop := { offset := cursor.offset + Text.size lexeme.text, file := file } }
  line := cursor.line
  column := cursor.column

/-- The tokens of lexemes that follow each other from a cursor on. -/
def place (file : String) (cursor : Cursor) : List Lexeme → List Token
  | [] => []
  | lexeme :: later => lexeme.token file cursor :: place file (cursor.past lexeme.text) later

def endOf (cursor : Cursor) (lexemes : List Lexeme) : Cursor :=
  cursor.past (lexemes.flatMap Lexeme.text)

end Lexeme

/-- What reading a source brought to light. A scan that did not reach the end has failed at the
place where it could not go on. -/
structure Scan where
  tokens : List Token
  failure? : Option ScanError
  deriving DecidableEq, Repr

namespace Scan

def result (scan : Scan) : Except ScanError (List Token) :=
  match scan.failure? with
  | none => .ok scan.tokens
  | some error => .error error

/-- The offsets that a scan makes positions of, in the order in which it does. -/
def offsets (scan : Scan) : List Nat :=
  scan.tokens.flatMap (fun token => [token.start, token.stop]) ++
    (scan.failure?.map fun error => error.position.offset).toList

/-- The result of a scan, unless one of its offsets does not fit into a position. -/
def checked (scan : Scan) : Except Breakdown (Except ScanError (List Token)) :=
  match scan.offsets.find? fun offset => Position.offsetLimit ≤ offset with
  | none => .ok scan.result
  | some offset => .error (.offsetTooLarge offset)

end Scan

namespace Source

/-- The scan of a source from a cursor on, where `previous` is the byte before the cursor and `rest`
is the text behind it. -/
def scanFrom (source : Source) (cursor : Cursor) (previous : Option UInt8) (rest : List Char) :
    Scan :=
  let (lexemes, left) := lex previous rest
  let stop := Lexeme.endOf cursor lexemes
  { tokens := Lexeme.place source.file cursor lexemes
    failure? :=
      if left = [] then
        none
      else
        some (ScanError.before source.content left { offset := stop.offset, file := source.file }
          stop.line stop.column) }

def scan (source : Source) : Scan :=
  source.scanFrom .start none source.content.toList

/-- Every token of a source, or the error at the first place where no kind fits. -/
def allTokens (source : Source) : Except ScanError (List Token) :=
  source.scan.result

def significantTokens (source : Source) : Except ScanError (List Token) :=
  source.allTokens.map Token.significant

/-- `allTokens` with offsets of 32 bits. -/
def checkedTokens (source : Source) : Except Breakdown (Except ScanError (List Token)) :=
  source.scan.checked

/-- `significantTokens` with offsets of 32 bits. -/
def checkedSignificantTokens (source : Source) :
    Except Breakdown (Except ScanError (List Token)) :=
  source.checkedTokens.map fun result => result.map Token.significant

end Source

end Lexis
