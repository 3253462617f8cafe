import Lexis.Excerpt
import Lexis.Source
import Lexis.Token

/-!
# Scan errors

A scan error reports a place of a source at which no kind of lexeme fits: where the place is, the
character that stands there, and the words around it.
-/

namespace Lexis

/-- A place of a source at which no kind of lexeme fits, with the character that stands there, if
any, and the words around it. -/
structure ScanError where
  position : Position
  line : Nat
  column : Nat
  character : String
  nearby : String
  deriving DecidableEq, Repr

namespace ScanError

def nearHint (nearby : String) : String :=
  "You have an error in your syntax near '" ++ nearby ++ "'"

def message (error : ScanError) : String :=
  toString error.position.offset ++ ": " ++ nearHint error.nearby

/-- The error at a place of a text, where `rest` is what stands behind the place. -/
def before (content : String) (rest : List Char) (position : Position) (line column : Nat) :
    ScanError where
  position := position
  line := line
  column := column
  character := String.ofList (rest.take 1)
  nearby := excerpt content position.offset

/-- The error at a place of a text. The place has to lie between two characters or at an end. -/
def locate (content : String) (position : Position) (line column : Nat) :
    Except Fault ScanError :=
  (cutAt content position.offset).map fun (_, rest) => before content rest position line column

end ScanError

end Lexis
