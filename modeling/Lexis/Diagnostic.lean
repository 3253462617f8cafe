import Lexis.Line
import Lexis.ScanError
import Lexis.Text.Blank
import Lexis.Text.Quoted

/-!
# Diagnostics

A diagnostic explains a scan error to the author of the source: it names the cause, gives a tip
where there is one, and shows the line with a caret under the place.
-/

namespace Lexis

/-- Why a source could not be read: no lexeme starts with a character, or the literal that starts
with a quote is not closed. -/
inductive Cause where
  | unrecognisedToken (token nearby : String)
  | unterminatedLiteral (quote nearby : String)
  deriving DecidableEq, Repr

namespace Cause

def name : Cause → String
  | .unrecognisedToken _ _ => "UnrecognisedToken"
  | .unterminatedLiteral _ _ => "UnterminatedLiteral"

def message : Cause → String
  | .unrecognisedToken token _ => "unrecognised token: " ++ Text.quote token
  | .unterminatedLiteral quote _ => "unterminated literal starting with " ++ Text.quote quote

/-- Advice on a cause. An unrecognised token without words around it leaves nothing to point at. -/
def tip? : Cause → Option String
  | .unrecognisedToken _ nearby => if nearby = "" then none else some (ScanError.nearHint nearby)
  | .unterminatedLiteral quote _ => some ("Missing closing " ++ quote ++ " for this literal")

end Cause

structure Diagnostic where
  cause : Cause
  position : Position
  deriving DecidableEq, Repr

namespace Position

/-- The place of a cause that belongs to no source. -/
def unknown : Position where
  offset := 0
  file := "<null>"

end Position

namespace ScanError

/-- The cause of a scan error: a quote that no literal starts with lacks its partner. -/
def cause (error : ScanError) : Cause :=
  if error.character = "\"" ∨ error.character = "'" then
    .unterminatedLiteral error.character error.nearby
  else
    .unrecognisedToken error.character error.nearby

def diagnostic (error : ScanError) : Diagnostic where
  cause := error.cause
  position := error.position

end ScanError

namespace LinePlace

/-- A space or a tab, the characters with which lines are indented. -/
def isIndent (char : Char) : Bool :=
  char == ' ' || char == '\t'

def alignRight (width : Nat) (filler : Char) (text : List Char) : List Char :=
  text.leftpad width filler

/-- A line without its indentation, its number in the margin, and a caret under the given column. -/
def illustration (place : LinePlace) : List String :=
  let number := (toString place.number).toList
  let margin := alignRight (number.length + 2) ' ' ['|']
  let line := place.text.toList
  let indent := line.takeWhile isIndent
  let shown := Text.trimEnd (line.drop indent.length)
  let caret := alignRight (place.column - indent.length + 1) '-' ['^']
  [String.ofList margin, String.ofList (number ++ [' ', '|', ' '] ++ shown),
    String.ofList (margin ++ ' ' :: caret)]

end LinePlace

namespace Diagnostic

def headline (diagnostic : Diagnostic) : String :=
  let named := "Error: " ++ diagnostic.cause.name
  match diagnostic.cause.tip? with
  | some tip => named ++ " (" ++ tip ++ ")"
  | none => named

/-- The lines that show a diagnostic of a text: the cause, the name of the source, and the line in
question if the place lies inside the text. -/
def lines (diagnostic : Diagnostic) (content : String) : List String :=
  [diagnostic.headline, "-> " ++ diagnostic.position.file] ++
    match lineAt? content diagnostic.position.offset with
    | some place => place.illustration
    | none => []

def render (diagnostic : Diagnostic) (content : String) : String :=
  String.join ((diagnostic.lines content).map (· ++ "\n"))

end Diagnostic

end Lexis
