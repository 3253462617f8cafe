import Lexis.Proofs.Excerpts

/-!
# Walking byte by byte

`walk` is told which bytes lie ahead of an offset and counts how many of them it passes. A program
that walks has only the offset: in each round it looks at the byte on one side of it, moves the
offset by one, and may ask for a byte that the source does not have. This file describes the rounds
with every such request checked.

From any offset of a source the rounds are over after at most one for each byte ahead and one more,
no request is refused, and they stop where `walk` says. Whatever the offset, the two stops are
therefore there, they fall between characters, and the text between them can be cut out of the
source.
-/

namespace Lexis

/-- The byte at an index of a source. -/
def byteAt (sourceBytes : List UInt8) (index : Nat) : Except Fault UInt8 :=
  match sourceBytes[index]? with
  | some byte => .ok byte
  | none => .error (.pastEnd index sourceBytes.length)

namespace Direction

/-- The bytes that lie ahead of an offset, the nearest first. -/
def ahead (sourceBytes : List UInt8) (offset : Nat) : Direction → List UInt8
  | .left => (sourceBytes.take offset).reverse
  | .right => sourceBytes.drop offset

/-- The index of the byte next to an offset, unless the offset is at the end of a source of the
given length. -/
def next? (length offset : Nat) : Direction → Option Nat
  | .left => if 0 < offset then some (offset - 1) else none
  | .right => if offset < length then some offset else none

/-- The offset so many bytes further on. -/
def move (offset count : Nat) : Direction → Nat
  | .left => offset - count
  | .right => offset + count

end Direction

namespace Walk

/-- Where a round leaves a walk. -/
inductive Progress where
  | ongoing (walk : Walk) (offset : Nat)
  | over (offset : Nat)

/-- One round of a walk: the next byte is met, and passed unless it stops the walk. -/
def round (sourceBytes : List UInt8) (direction : Direction) (walk : Walk) (offset : Nat) :
    Except Fault Progress :=
  match direction.next? sourceBytes.length offset with
  | none => .ok (.over offset)
  | some index => do
      let met := walk.step (← byteAt sourceBytes index)
      if met.stops then
        return .over offset
      else
        return .ongoing met (direction.move offset 1)

/-- So many rounds of a walk, or fewer if it is over before. -/
def rounds (sourceBytes : List UInt8) (direction : Direction) :
    Nat → Walk → Nat → Except Fault Progress
  | 0, walk, offset => .ok (.ongoing walk offset)
  | count + 1, walk, offset => do
      match ← walk.round sourceBytes direction offset with
      | .ongoing next place => rounds sourceBytes direction count next place
      | .over place => return .over place

end Walk

section Rounds

variable {sourceBytes later : List UInt8} {offset : Nat} {byte : UInt8}

theorem walk_eq_move (direction : Direction) :
    walk sourceBytes offset direction =
      direction.move offset (Walk.start.reach (direction.ahead sourceBytes offset)) := by
  cases direction with
  | left => rfl
  | right => rfl

theorem byteAt_of_getElem? {index : Nat} (atIndex : sourceBytes[index]? = some byte) :
    byteAt sourceBytes index = .ok byte := by
  rw [byteAt, atIndex]

theorem Direction.next?_of_ahead_nil {direction : Direction} (within : offset ≤ sourceBytes.length)
    (nothing : direction.ahead sourceBytes offset = []) :
    direction.next? sourceBytes.length offset = none := by
  have noneLeft := congrArg List.length nothing
  cases direction with
  | left =>
      apply if_neg
      simp only [ahead, List.length_reverse, List.length_take, List.length_nil] at noneLeft
      omega
  | right =>
      apply if_neg
      simp only [ahead, List.length_drop, List.length_nil] at noneLeft
      omega

/-- The nearest byte ahead is the one next to the offset, and past it the others lie ahead. -/
theorem Direction.exists_next?_of_ahead_cons {direction : Direction}
    (within : offset ≤ sourceBytes.length)
    (aheadIs : direction.ahead sourceBytes offset = byte :: later) :
    ∃ index, direction.next? sourceBytes.length offset = some index ∧
      byteAt sourceBytes index = .ok byte ∧
      direction.move offset 1 ≤ sourceBytes.length ∧
      direction.ahead sourceBytes (direction.move offset 1) = later := by
  cases direction with
  | left =>
      cases offset with
      | zero => contradiction
      | succ before =>
          have taken := List.take_succ_eq_append_getElem within
          simp only [ahead, taken, List.reverse_append, List.reverse_singleton,
            List.singleton_append, List.cons.injEq] at aheadIs
          rcases aheadIs with ⟨rfl, rfl⟩
          have found : next? sourceBytes.length (before + 1) .left = some before := rfl
          refine ⟨before, found, ?_, Nat.le_of_lt within, rfl⟩
          exact byteAt_of_getElem? (List.getElem?_eq_getElem within)
  | right =>
      have inside : offset < sourceBytes.length := by
        have length := congrArg List.length aheadIs
        simp only [ahead, List.length_drop, List.length_cons] at length
        omega
      simp only [ahead, List.drop_eq_getElem_cons inside, List.cons.injEq] at aheadIs
      rcases aheadIs with ⟨rfl, rfl⟩
      refine ⟨offset, if_pos inside, ?_, inside, rfl⟩
      exact byteAt_of_getElem? (List.getElem?_eq_getElem inside)

theorem Direction.move_zero (direction : Direction) (offset : Nat) :
    direction.move offset 0 = offset := by
  cases direction with
  | left => rfl
  | right => rfl

theorem Direction.move_move (direction : Direction) (offset first second : Nat) :
    direction.move (direction.move offset first) second =
      direction.move offset (first + second) := by
  cases direction with
  | left => exact Nat.sub_sub offset first second
  | right => exact Nat.add_assoc offset first second

namespace Walk

variable {walk : Walk} {direction : Direction}

theorem round_of_ahead_nil (within : offset ≤ sourceBytes.length)
    (nothing : direction.ahead sourceBytes offset = []) :
    walk.round sourceBytes direction offset = .ok (.over offset) := by
  rw [round, Direction.next?_of_ahead_nil within nothing]

theorem round_of_ahead_cons (within : offset ≤ sourceBytes.length)
    (aheadIs : direction.ahead sourceBytes offset = byte :: later) :
    walk.round sourceBytes direction offset =
      .ok (if (walk.step byte).stops then .over offset
        else .ongoing (walk.step byte) (direction.move offset 1)) := by
  rcases Direction.exists_next?_of_ahead_cons within aheadIs with ⟨index, next, found, -, -⟩
  simp only [round, next, found, bind, Except.bind, pure, Except.pure]
  split
  · rfl
  · rfl

/-- More rounds than bytes lie ahead bring a walk to its end, and no round is refused. -/
theorem rounds_eq_over (within : offset ≤ sourceBytes.length) {count : Nat}
    (enough : (direction.ahead sourceBytes offset).length < count) :
    walk.rounds sourceBytes direction count offset =
      .ok (.over (direction.move offset (walk.reach (direction.ahead sourceBytes offset)))) := by
  induction count generalizing walk offset with
  | zero => contradiction
  | succ count ih =>
      cases aheadIs : direction.ahead sourceBytes offset with
      | nil =>
          simp [rounds, round_of_ahead_nil within aheadIs, reach, Direction.move_zero, bind,
            Except.bind, pure, Except.pure]
      | cons byte later =>
          rcases Direction.exists_next?_of_ahead_cons within aheadIs with
            ⟨-, -, -, nextWithin, nextAhead⟩
          rw [aheadIs] at enough
          have fewer : (direction.ahead sourceBytes (direction.move offset 1)).length < count := by
            rw [nextAhead]
            exact Nat.lt_of_succ_lt_succ enough
          have stepped := walk.round_of_ahead_cons within aheadIs
          cases stopped : (walk.step byte).stops with
          | true =>
              simp [rounds, stepped, stopped, reach, Direction.move_zero, bind, Except.bind, pure,
                Except.pure]
          | false =>
              have goesOn := @ih _ (walk.step byte) nextWithin fewer
              rw [nextAhead, Direction.move_move, Nat.add_comm 1] at goesOn
              simp [rounds, stepped, stopped, reach, goesOn, bind, Except.bind]

/-- A walk from an offset of a source is over after one round more than there are bytes ahead. -/
theorem rounds_eq_over_walk (within : offset ≤ sourceBytes.length) (direction : Direction) :
    Walk.start.rounds sourceBytes direction ((direction.ahead sourceBytes offset).length + 1)
        offset =
      .ok (.over (Lexis.walk sourceBytes offset direction)) := by
  rw [walk_eq_move]
  exact rounds_eq_over within (Nat.lt_succ_self _)

end Walk

end Rounds

/-- Whatever the offset, both walks come to an end, on either side of the offset and between
characters of the source, and the excerpt is cut out there. -/
theorem excerpt_total (source : String) (offset : Nat) :
    ∃ place start stop inner, place = min offset (Text.size source.toList) ∧
      Walk.start.rounds (Text.bytes source.toList) .left (place + 1) place = .ok (.over start) ∧
      Walk.start.rounds (Text.bytes source.toList) .right (Text.size source.toList - place + 1)
        place = .ok (.over stop) ∧
      window source offset = { start := start, stop := stop } ∧
      start ≤ place ∧ place ≤ stop ∧ stop ≤ Text.size source.toList ∧
      Text.IsBoundary source.toList start ∧ Text.IsBoundary source.toList stop ∧
      sliceAt source start stop = .ok inner ∧
      excerpt source offset = String.ofList (Text.trim inner) := by
  let place := min offset (Text.bytes source.toList).length
  have within : place ≤ (Text.bytes source.toList).length := Nat.min_le_right _ _
  have placeIs : place = min offset (Text.size source.toList) := by
    rw [← Text.length_bytes]
  have left := Walk.rounds_eq_over_walk within .left
  have right := Walk.rounds_eq_over_walk within .right
  simp only [Direction.ahead, List.length_reverse, List.length_take, List.length_drop,
    Nat.min_eq_left within] at left right
  rw [Text.length_bytes] at right
  have before := window_start_le source offset
  have behind := le_window_stop source offset
  rw [← placeIs] at before behind
  rcases excerpt_eq_trim_slice source offset with ⟨inner, sliced, excerptIs⟩
  exact ⟨place, _, _, inner, placeIs, left, right, rfl, before, behind,
    window_stop_le source offset, isBoundary_window_start source offset,
    isBoundary_window_stop source offset, sliced, excerptIs⟩

end Lexis
