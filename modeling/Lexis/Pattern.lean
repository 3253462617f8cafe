/-!
# Patterns

A pattern describes a set of texts: single characters of a class, fixed spellings, and what is built
from them by sequence, choice and repetition. A pattern says which texts belong to it and nothing
about how such a text is found.
-/

namespace Lexis

inductive Pattern where
  | char (inClass : Char → Bool)
  | spelling (text : List Char)
  | seq (first second : Pattern)
  | either (left right : Pattern)
  /-- Texts of one pattern one after the other, at least and perhaps at most so many. -/
  | times (least : Nat) (most : Option Nat) (body : Pattern)

namespace Pattern

def Matches : Pattern → List Char → Prop
  | .char inClass, text => ∃ char, text = [char] ∧ inClass char = true
  | .spelling expected, text => text = expected
  | .seq first second, text =>
      ∃ left right, text = left ++ right ∧ first.Matches left ∧ second.Matches right
  | .either left right, text => left.Matches text ∨ right.Matches text
  | .times least most body, text =>
      ∃ parts : List (List Char), text = parts.flatten ∧ (∀ part ∈ parts, body.Matches part) ∧
        least ≤ parts.length ∧ ∀ bound ∈ most, parts.length ≤ bound

def inOrder (patterns : List Pattern) : Pattern :=
  patterns.foldr seq (spelling [])

def optional (pattern : Pattern) : Pattern :=
  pattern.times 0 (some 1)

def zeroOrMore (pattern : Pattern) : Pattern :=
  pattern.times 0 none

def oneOrMore (pattern : Pattern) : Pattern :=
  pattern.times 1 none

def oneOf (chars : List Char) : Pattern :=
  char (· ∈ chars)

def noneOf (chars : List Char) : Pattern :=
  char (· ∉ chars)

end Pattern

end Lexis
