import Lexis.Scan

/-!
# Scanners

A scanner is a scan that its user drives: the cursor can be moved ahead, tokens from elsewhere can
be put in front of those still to be found, and the rest of the source can be scanned from wherever
the cursor stands. A cursor may rest inside a character, but a scan cannot start there.
-/

namespace Lexis

/-- A scan under way: the source, the place reached so far, and the tokens gathered so far in the
order in which they were added. -/
structure Scanner where
  source : Source
  cursor : Cursor
  gathered : List Token
  deriving DecidableEq, Repr

namespace Scanner

def ofSource (source : Source) : Scanner where
  source := source
  cursor := .start
  gathered := []

def atEnd (scanner : Scanner) : Bool :=
  Text.size scanner.source.content.toList ≤ scanner.cursor.offset

def column (scanner : Scanner) : Nat :=
  scanner.cursor.column

/-- Moves the cursor ahead by a number of bytes, which the source must still have. -/
def advance (scanner : Scanner) (count : Nat) : Except Fault Scanner :=
  let sourceBytes := Text.bytes scanner.source.content.toList
  let target := scanner.cursor.offset + count
  if target ≤ sourceBytes.length then
    .ok { scanner with
      cursor := scanner.cursor.passing ((sourceBytes.drop scanner.cursor.offset).take count) }
  else
    .error (.pastEnd target sourceBytes.length)

def push (scanner : Scanner) (token : Token) : Scanner :=
  { scanner with gathered := scanner.gathered ++ [token] }

/-- Scans the source from the cursor on. The tokens gathered before come first. -/
def run (scanner : Scanner) : Except Fault (Except ScanError (List Token)) :=
  (cutAt scanner.source.content scanner.cursor.offset).map fun (before, rest) =>
    (scanner.source.scanFrom scanner.cursor (Text.lastByte? before) rest).result.map
      (scanner.gathered ++ ·)

/-- `run` with offsets of 32 bits. The tokens gathered before have their positions already. -/
def checkedRun (scanner : Scanner) : Except Breakdown (Except ScanError (List Token)) := do
  let (before, rest) ← Breakdown.ofRequest (cutAt scanner.source.content scanner.cursor.offset)
  let result ← (scanner.source.scanFrom scanner.cursor (Text.lastByte? before) rest).checked
  return result.map (scanner.gathered ++ ·)

end Scanner

end Lexis
