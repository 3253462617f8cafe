import Lexis.Kind

/-!
# Tokens

A token is a lexeme with its place in a named source: the byte range that it fills, and the line and
column at which it starts.
-/

namespace Lexis

/-- A byte offset in a named source. -/
structure Position where
  offset : Nat
  file : String
  deriving DecidableEq, Repr

/-- A byte range of a source; the byte at its end is no longer part of it. -/
structure Span where
  start : Position
  stop : Position
  deriving DecidableEq, Repr

/-- A lexeme with its place. Lines are counted from 1, and the column is the number of bytes of the
line before the lexeme. -/
structure Token where
  kind : Kind
  value : String
  span : Span
  line : Nat
  column : Nat
  deriving DecidableEq, Repr

namespace Token

def start (token : Token) : Nat :=
  token.span.start.offset

def stop (token : Token) : Nat :=
  token.span.stop.offset

def isTrivia (token : Token) : Bool :=
  token.kind.isTrivia

/-- The line that shows a token to a reader. The text of a comment or blank is left out. -/
def display (token : Token) : String :=
  let place := "[L" ++ toString token.line ++ ":" ++ toString token.start ++ "]"
  if token.isTrivia then
    token.kind.name ++ " " ++ place
  else
    token.kind.name ++ " '" ++ token.value ++ "' " ++ place

def significant (tokens : List Token) : List Token :=
  tokens.filter (!·.isTrivia)

end Token

end Lexis
