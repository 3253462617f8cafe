/-!
# Sets of code points

A property of characters that a table defines is a list of ranges of code points.
-/

namespace Lexis.Text

/-- A run of consecutive code points, both ends included. -/
structure CodeRange where
  first : Nat
  last : Nat

namespace CodeRange

def covers (range : CodeRange) (char : Char) : Bool :=
  range.first ≤ char.toNat && char.toNat ≤ range.last

def anyCovers (ranges : List CodeRange) (char : Char) : Bool :=
  ranges.any (·.covers char)

end CodeRange

end Lexis.Text
