import Lexis.Scanner

/-!
# Rounds

`Scanner.checkedRun` finds all lexemes at once and checks the offsets afterwards. A program does not
work in this way: it goes round by round, takes one lexeme in each, and checks every request when it
makes it. This file is that loop.
-/

namespace Lexis.Scanner

/-- Where a round leaves a scan. -/
inductive Progress where
  | ongoing (scanner : Scanner)
  | over (result : Except ScanError (List Token))

/-- The column of the cursor, if its line does not start behind it. -/
def checkedColumn (scanner : Scanner) : Except Breakdown Nat :=
  if scanner.cursor.lineStart ≤ scanner.cursor.offset then .ok scanner.column
  else .error (.lineAhead scanner.cursor)

def errorHere (scanner : Scanner) : Except Breakdown ScanError := do
  let content := scanner.source.content
  let position ← Position.ofOffset scanner.source.file scanner.cursor.offset
  let column ← scanner.checkedColumn
  let (_, rest) ← Breakdown.ofRequest (cutAt content position.offset)
  let range := window content position.offset
  let inner ← Breakdown.ofRequest (sliceAt content range.start range.stop)
  return {
    position := position
    line := scanner.cursor.line
    column := column
    character := String.ofList (rest.take 1)
    nearby := String.ofList (Text.trim inner) }

def tokenHere (scanner : Scanner) (kind : Kind) (length : Nat) : Except Breakdown Token := do
  let offset := scanner.cursor.offset
  let value ← Breakdown.ofRequest (sliceAt scanner.source.content offset (offset + length))
  let start ← Position.ofOffset scanner.source.file offset
  let stop ← Position.ofOffset scanner.source.file (offset + length)
  let column ← scanner.checkedColumn
  return {
    kind := kind
    value := String.ofList value
    span := { start := start, stop := stop }
    line := scanner.cursor.line
    column := column }

/-- One round of a scan: the lexeme at the cursor is added to the tokens and passed. -/
def round (scanner : Scanner) : Except Breakdown Progress :=
  if scanner.atEnd then
    .ok (.over (.ok scanner.gathered))
  else do
    match ← Breakdown.ofRequest (lexemeAt scanner.source.content scanner.cursor.offset) with
    | none => return .over (.error (← scanner.errorHere))
    | some (kind, length) =>
        let token ← scanner.tokenHere kind length
        return .ongoing (← Breakdown.ofRequest ((scanner.push token).advance length))

/-- So many rounds of a scan, or fewer if it is over before. -/
def rounds : Nat → Scanner → Except Breakdown Progress
  | 0, scanner => .ok (.ongoing scanner)
  | count + 1, scanner => do
      match ← scanner.round with
      | .ongoing next => rounds count next
      | .over result => return .over result

end Lexis.Scanner
