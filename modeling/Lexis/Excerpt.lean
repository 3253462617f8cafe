import Lexis.Cursor
import Lexis.Text.Blank

/-!
# Excerpts

An error message quotes the words around the place of the error. From that place the source is
walked outwards in both directions; each walk stops before a line feed, before the space that ends
its fifth word, or at an end of the source. What lies between the two stops is the window, and the
excerpt is the text of the window without blanks at its ends.
-/

namespace Lexis

def spaceByte : UInt8 := 32

/-- Where a walk stands in relation to words, a word being a run of bytes other than spaces. -/
inductive Walk.Phase where
  | fresh
  | betweenWords
  | insideWord
  | atLineFeed
  deriving DecidableEq, Repr

/-- Ends of words are counted in 64 bits, and the count starts again when these are used up. -/
abbrev Walk.Count := UInt64

/-- A walk outwards from a place of a source, with the number of words whose end it has met. -/
structure Walk where
  phase : Walk.Phase
  wordEnds : Walk.Count
  deriving DecidableEq, Repr

namespace Walk

instance : Coe Nat Count := ⟨UInt64.ofNat⟩

instance : CoeOut Count Nat := ⟨UInt64.toNat⟩

def Phase.isFinal (phase : Phase) : Bool :=
  phase = .atLineFeed

/-- The number of ends of words at which a walk stops. -/
def wordLimit : Nat := 5

def start : Walk where
  phase := .fresh
  wordEnds := 0

/-- A walk that meets one more byte. A space ends a word only where the walk was inside one. -/
def step (walk : Walk) (byte : UInt8) : Walk :=
  match walk.phase with
  | .atLineFeed => walk
  | .insideWord =>
      if byte = lineFeed then
        { walk with phase := .atLineFeed }
      else if byte = spaceByte then
        { phase := .betweenWords, wordEnds := walk.wordEnds + 1 }
      else
        walk
  | .fresh | .betweenWords =>
      if byte = lineFeed then
        { walk with phase := .atLineFeed }
      else if byte = spaceByte then
        { walk with phase := .betweenWords }
      else
        { walk with phase := .insideWord }

/-- A walk from before its first byte to after its last, one state for each place between. -/
def trace (walk : Walk) : List UInt8 → List Walk
  | [] => [walk]
  | byte :: later => walk :: (walk.step byte).trace later

/-- A walk goes no further: it met a line feed or as many ends of words as it may. -/
def stops (walk : Walk) : Bool :=
  walk.phase.isFinal || wordLimit ≤ (walk.wordEnds : Nat)

/-- The number of bytes that a walk passes. The byte that stops it is not passed. -/
def reach (walk : Walk) : List UInt8 → Nat
  | [] => 0
  | byte :: later =>
      if (walk.step byte).stops then 0 else (walk.step byte).reach later + 1

theorem reach_le_length (walk : Walk) (ahead : List UInt8) : walk.reach ahead ≤ ahead.length := by
  induction ahead generalizing walk with
  | nil => exact Nat.le_refl 0
  | cons byte later ih =>
      simp only [reach, List.length_cons]
      split
      · exact Nat.zero_le _
      · exact Nat.succ_le_succ (ih (walk.step byte))

end Walk

inductive Direction where
  | left
  | right
  deriving DecidableEq, Repr

def walk (source : List UInt8) (offset : Nat) : Direction → Nat
  | .left => offset - Walk.start.reach (source.take offset).reverse
  | .right => offset + Walk.start.reach (source.drop offset)

/-- A byte range of a source, from its first byte to behind its last. -/
structure Window where
  start : Nat
  stop : Nat
  deriving DecidableEq, Repr

/-- The window around an offset of a source; an offset past the end stands for the end. -/
def window (source : String) (offset : Nat) : Window :=
  let sourceBytes := Text.bytes source.toList
  let place := min offset sourceBytes.length
  { start := walk sourceBytes place .left, stop := walk sourceBytes place .right }

/-- The text of the window around an offset of a source, without blanks at its ends. -/
def excerpt (source : String) (offset : Nat) : String :=
  let range := window source offset
  String.ofList (Text.trim ((Text.slice? source.toList range.start range.stop).getD []))

end Lexis
