import Lexis.Lexeme
import Lexis.Pattern

/-!
# The lexical grammar

Every kind of lexeme has a pattern, and the pattern alone says which texts are lexemes of the kind.
`Kind.Fits` says which pieces at the start of a text a kind could take, `Kind.Takes` which of them
it does take: the shortest for block comments and text blocks, the longest for all others.
-/

namespace Lexis

namespace Pattern

def digit : Pattern :=
  char Char.isDigit

def optionalSign : Pattern :=
  (oneOf ['+', '-']).optional

def decimal (limit : Nat) : Pattern :=
  inOrder [digit.times 1 (some NumberForm.wholeLimit), spelling ['.'], digit.times 1 (some limit)]

/-- A character other than a backslash, or a backslash with any character after it. -/
def escapable : Pattern :=
  either (noneOf ['\\']) (inOrder [spelling ['\\'], char fun _ => true])

/-- A character of a string: none of the double quote, the backslash and the line feed, or a
backslash with any character but a line feed after it. -/
def stringChar : Pattern :=
  either (noneOf ['"', '\\', '\n']) (inOrder [spelling ['\\'], noneOf ['\n']])

def ofTrivia : Trivia → Pattern
  | .blockComment =>
      inOrder [spelling ['/', '*'], (char fun _ => true).zeroOrMore, spelling ['*', '/']]
  | .lineComment =>
      inOrder [spelling ['/', '/'], (noneOf ['\n']).zeroOrMore, (spelling ['\n']).optional]
  | .newline => inOrder [(spelling ['\r']).optional, spelling ['\n']]
  | .tab => spelling ['\t']
  | .spaces => (spelling [' ']).oneOrMore

def ofNumber : NumberForm → Pattern
  | .scientific =>
      inOrder [optionalSign, digit.oneOrMore, (inOrder [spelling ['.'], digit.oneOrMore]).optional,
        oneOf ['e', 'E'], optionalSign, digit.oneOrMore]
  | .octal => inOrder [spelling ['0'], (char NumberForm.isOctalDigit).oneOrMore]
  | .float => decimal NumberForm.floatLimit
  | .double => decimal NumberForm.doubleLimit
  | .int => digit.times 1 (some NumberForm.wholeLimit)
  | .hex => inOrder [spelling ['0'], oneOf ['x', 'X'], (char NumberForm.isHexDigit).oneOrMore]
  | .binary => inOrder [spelling ['0'], oneOf ['b', 'B'], (char NumberForm.isBinaryDigit).oneOrMore]

def ofQuoted : QuotedForm → Pattern
  | .textBlock =>
      inOrder [spelling ['"', '"', '"'], escapable.zeroOrMore, spelling ['"', '"', '"']]
  | .string => inOrder [spelling ['"'], stringChar.zeroOrMore, spelling ['"']]
  | .char =>
      inOrder [spelling ['\''],
        either (noneOf ['\'', '\\', '\n']) (inOrder [spelling ['\\'], oneOf ['n', 't']]),
        spelling ['\'']]

/-- The pattern of identifiers: a letter and at most so many further word characters that the limit
on identifiers is kept. -/
def ofIdentifier : Pattern :=
  inOrder [char Char.isAlpha, (char isWordChar).times 0 (some (identifierLimit - 1))]

end Pattern

namespace Kind

def pattern : Kind → Pattern
  | .trivia form => .ofTrivia form
  | .punctuation form => .spelling [form.mark]
  | .number form => .ofNumber form
  | .quoted form => .ofQuoted form
  | .keyword word => .spelling word.spelling
  | .operator sign => .spelling sign.spelling
  | .identifier => .ofIdentifier

/-- The cut between two texts lies at an edge of a word: a word character stands on exactly one side
of it. -/
def AtWordEdge (before after : List Char) : Prop :=
  before.getLast?.any isWordChar ≠ after.head?.any isWordChar

/-- A kind could take a piece at the start of a text: the piece matches the pattern of the kind and,
if the kind is word-bounded, ends at an edge of a word. -/
def Fits (kind : Kind) (text piece : List Char) : Prop :=
  Starts piece text ∧ kind.pattern.Matches piece ∧
    (kind.isWordBounded = true → AtWordEdge piece (text.drop piece.length))

/-- Kinds whose body may hold anything, so that only the first closing mark can end them. -/
def takesShortest (kind : Kind) : Bool :=
  kind = .trivia .blockComment ∨ kind = .quoted .textBlock

/-- A kind takes a piece at the start of a text: the shortest or the longest that it could take. -/
def Takes (kind : Kind) (text piece : List Char) : Prop :=
  kind.Fits text piece ∧ ∀ other, kind.Fits text other →
    if kind.takesShortest then piece.length ≤ other.length else other.length ≤ piece.length

end Kind

end Lexis
