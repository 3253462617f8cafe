import Lexis.Fault
import Lexis.Lexeme

/-!
# Sources

A source is a text with the name under which its places are reported. `lexemeAt` answers which
lexeme stands at one offset of a source without scanning what comes before.
-/

namespace Lexis

/-- A text with a name. -/
structure Source where
  file : String
  content : String
  deriving DecidableEq, Repr

namespace Source

def defaultFile : String := "shell"

def named (file : Option String) (content : String) : Source where
  file := file.getD defaultFile
  content := content

end Source

/-- Cuts a text at a byte offset into what stands before and what stands behind. -/
def cutAt (content : String) (offset : Nat) : Except Fault (List Char × List Char) :=
  match Text.splitAtByte? content.toList offset with
  | some parts => .ok parts
  | none =>
      let length := Text.size content.toList
      if offset ≤ length then
        .error (.insideCharacter offset)
      else
        .error (.pastEnd offset length)

/-- The text between two offsets of a text. It is refused where an offset lies inside a character or
past the end, or where the end precedes the start. -/
def sliceAt (content : String) (start stop : Nat) : Except Fault (List Char) := do
  let (front, _) ← cutAt content stop
  let (_, inner) ← cutAt (String.ofList front) start
  return inner

/-- The kind of the lexeme at an offset of a text and its number of bytes, or nothing if no kind
fits there. -/
def lexemeAt (content : String) (offset : Nat) : Except Fault (Option (Kind × Nat)) :=
  let length := Text.size content.toList
  if length ≤ offset then
    .error (.illegalIndex offset length)
  else
    (cutAt content offset).map fun (before, rest) =>
      (Lexeme.first? (Text.lastByte? before) rest).map fun lexeme =>
        (lexeme.kind, Text.size lexeme.text)

end Lexis
