/-!
# Faults

A fault is a request that does not make sense for its source. It is no property of the source: the
whole scan of a source never runs into one.
-/

namespace Lexis

/-- A request that a source cannot answer: for a lexeme at or past its end, for a cut inside one of
its characters, or for anything past its end. -/
inductive Fault where
  | illegalIndex (offset length : Nat)
  | insideCharacter (offset : Nat)
  | pastEnd (offset length : Nat)
  deriving DecidableEq, Repr

namespace Fault

def message : Fault → String
  | .illegalIndex offset length =>
      "illegal index " ++ toString offset ++ " in the input stream of length " ++ toString length
  | .insideCharacter offset => "offset " ++ toString offset ++ " is inside a character"
  | .pastEnd offset length =>
      "offset " ++ toString offset ++ " is past the end of a source of length " ++ toString length

end Fault

end Lexis
