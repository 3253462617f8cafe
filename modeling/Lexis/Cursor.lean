import Lexis.Text.Utf8

/-!
# Cursors

A cursor is a place in a source together with its line. It moves byte by byte: a line feed begins
the next line, and every other byte stays on the line it is on. Moving over two stretches one after
the other is moving over both at once, wherever the cut between them falls.
-/

namespace Lexis

/-- The byte of a line feed. No other character has this byte in its UTF-8 form. -/
def lineFeed : UInt8 := 10

/-- A place in a source: the number of bytes before it, the number of its line, counted from 1, and
the offset at which that line starts. -/
structure Cursor where
  offset : Nat
  line : Nat
  lineStart : Nat
  deriving DecidableEq, Repr

namespace Cursor

def start : Cursor where
  offset := 0
  line := 1
  lineStart := 0

/-- The number of bytes of the line before the cursor. -/
def column (cursor : Cursor) : Nat :=
  cursor.offset - cursor.lineStart

def step (cursor : Cursor) (byte : UInt8) : Cursor :=
  if byte = lineFeed then
    { offset := cursor.offset + 1, line := cursor.line + 1, lineStart := cursor.offset + 1 }
  else
    { cursor with offset := cursor.offset + 1 }

def passing (cursor : Cursor) (passed : List UInt8) : Cursor :=
  passed.foldl step cursor

def past (cursor : Cursor) (text : List Char) : Cursor :=
  cursor.passing (Text.bytes text)

@[simp]
theorem passing_nil (cursor : Cursor) : cursor.passing [] = cursor := rfl

theorem passing_append (cursor : Cursor) (passed more : List UInt8) :
    cursor.passing (passed ++ more) = (cursor.passing passed).passing more :=
  List.foldl_append

theorem past_append (cursor : Cursor) (text more : List Char) :
    cursor.past (text ++ more) = (cursor.past text).past more := by
  simp [past, passing_append]

@[simp]
theorem offset_passing (cursor : Cursor) (passed : List UInt8) :
    (cursor.passing passed).offset = cursor.offset + passed.length := by
  induction passed generalizing cursor with
  | nil => simp
  | cons byte later ih =>
      have stepped := ih (cursor.step byte)
      simp only [passing, List.foldl_cons, List.length_cons] at stepped ⊢
      rw [stepped]
      unfold step
      split <;> simp only <;> omega

@[simp]
theorem offset_past (cursor : Cursor) (text : List Char) :
    (cursor.past text).offset = cursor.offset + Text.size text := by
  simp [past]

end Cursor

end Lexis
