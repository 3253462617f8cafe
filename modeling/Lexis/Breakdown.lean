import Lexis.Cursor
import Lexis.Fault
import Lexis.Token

/-!
# Breakdowns

A breakdown is what stops a scan that checks each of its requests: a request that the source
refuses, an offset that does not fit into the 32 bits of a position, or a cursor whose line starts
behind it. A position that was cut off would point at the wrong text, so a scan stops rather than
report one.
-/

namespace Lexis

/-- What stops a scan that checks each of its requests. -/
inductive Breakdown where
  | refused (fault : Fault)
  | offsetTooLarge (offset : Nat)
  | lineAhead (cursor : Cursor)
  deriving DecidableEq, Repr

namespace Breakdown

/-- A request to a source, whose refusal is a breakdown. -/
def ofRequest {Answer : Type} (request : Except Fault Answer) : Except Breakdown Answer :=
  request.mapError .refused

@[simp]
theorem ofRequest_ok {Answer : Type} (answer : Answer) : ofRequest (.ok answer) = .ok answer :=
  rfl

def message : Breakdown → String
  | .refused fault => fault.message
  | .offsetTooLarge offset => "offset " ++ toString offset ++ " does not fit in a source position"
  | .lineAhead _ => "attempt to subtract with overflow"

end Breakdown

namespace Position

/-- Positions hold offsets of 32 bits. -/
def offsetLimit : Nat := 4294967296

/-- The position at an offset, if the offset fits. -/
def ofOffset (file : String) (offset : Nat) : Except Breakdown Position :=
  if offset < offsetLimit then .ok { offset := offset, file := file }
  else .error (.offsetTooLarge offset)

theorem ofOffset_of_lt {file : String} {offset : Nat} (fits : offset < offsetLimit) :
    ofOffset file offset = .ok { offset := offset, file := file } :=
  if_pos fits

theorem ofOffset_of_le {file : String} {offset : Nat} (tooLarge : offsetLimit ≤ offset) :
    ofOffset file offset = .error (.offsetTooLarge offset) :=
  if_neg (Nat.not_lt_of_le tooLarge)

end Position

end Lexis
