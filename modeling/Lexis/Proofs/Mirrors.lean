import Lexis.Proofs.Extents
import Lexis.Proofs.WalkRounds

/-!
# What a walk has met

The state of a walk is all that it keeps of the bytes it has met, and it can be read off them:
whether there was a line feed, how many words ended before the first one, and whether the last byte
was a space. This holds from any phase but the final one and from any count, so the induction goes
over the bytes with the walk left free.

Nothing of a walk depends on the direction in which it goes. Seen from the other end of the source,
each round to the left is a round to the right over the reversed source, and so the two come to an
end at the same byte.
-/

namespace Lexis

namespace Walk

variable {walk : Walk} {byte : UInt8} {met : List UInt8}

/-- A walk has come from one state to another on meeting some bytes: what the second state says of
the bytes. Words end at spaces before the first line feed, and their number is counted in 64 bits.
-/
structure HasMet (walk : Walk) (met : List UInt8) (final : Walk) : Prop where
  atLineFeed_iff : final.phase = .atLineFeed ↔ lineFeed ∈ met
  wordEnds_eq : final.wordEnds.toNat = (walk.wordEnds.toNat +
    ((Finset.range (met.idxOf lineFeed)).filter (EndsWordAt walk.isInside met)).card) % 2 ^ 64
  phase_eq : lineFeed ∉ met →
    final.phase = if met.getLast? = some spaceByte then .betweenWords else .insideWord

theorem step_of_atLineFeed (atFeed : walk.phase = .atLineFeed) (byte : UInt8) :
    walk.step byte = walk := by
  simp only [step, atFeed]

theorem foldl_step_of_atLineFeed (atFeed : walk.phase = .atLineFeed) (met : List UInt8) :
    met.foldl step walk = walk := by
  induction met with
  | nil => rfl
  | cons byte later ih => rw [List.foldl_cons, step_of_atLineFeed atFeed, ih]

/-- A line feed ends a walk and leaves its count. -/
theorem step_lineFeed (walk : Walk) : walk.step lineFeed = { walk with phase := .atLineFeed } := by
  rcases walk with ⟨phase, wordEnds⟩
  cases phase <;> rfl

theorem phase_foldl_step_iff (goesOn : walk.phase ≠ .atLineFeed) :
    (met.foldl step walk).phase = .atLineFeed ↔ lineFeed ∈ met := by
  induction met generalizing walk with
  | nil => simp [goesOn]
  | cons byte later ih =>
      rcases Decidable.em (byte = lineFeed) with rfl | notFeed
      · rw [List.foldl_cons, step_lineFeed, foldl_step_of_atLineFeed rfl]
        exact iff_of_true rfl List.mem_cons_self
      · rw [List.foldl_cons, ih (phase_step_ne goesOn notFeed), List.mem_cons]
        exact (or_iff_right (Ne.symm notFeed)).symm

theorem wordEnds_foldl_step (goesOn : walk.phase ≠ .atLineFeed) :
    (met.foldl step walk).wordEnds =
      walk.wordEnds + (endedWords walk.isInside (met.take (met.idxOf lineFeed)) : Count) := by
  induction met generalizing walk with
  | nil => exact (UInt64.add_zero _).symm
  | cons byte later ih =>
      rcases Decidable.em (byte = lineFeed) with rfl | notFeed
      · rw [List.foldl_cons, step_lineFeed, foldl_step_of_atLineFeed rfl, List.idxOf_cons_self]
        exact (UInt64.add_zero _).symm
      · rw [List.foldl_cons, ih (phase_step_ne goesOn notFeed), List.idxOf_cons_ne later notFeed,
          List.take_succ_cons, endedWords_cons, wordEnds_step goesOn notFeed,
          isInside_step goesOn notFeed, UInt64.add_assoc, ← UInt64.ofNat_add]

/-- Whether a word ends at an index can be told from the bytes up to there. -/
theorem endsWordAt_take_iff {inside : Bool} {count index : Nat} (before : index < count) :
    EndsWordAt inside (met.take count) index ↔ EndsWordAt inside met index := by
  cases index with
  | zero => simp only [EndsWordAt, List.getElem?_take_of_lt before]
  | succ previous =>
      simp only [EndsWordAt, List.getElem?_take_of_lt before,
        List.getElem?_take_of_lt (Nat.lt_of_succ_lt before)]

/-- Without a line feed the last byte alone decides the phase. -/
theorem phase_foldl_step_eq (goesOn : walk.phase ≠ .atLineFeed) (nonempty : met ≠ [])
    (noFeed : lineFeed ∉ met) : (met.foldl step walk).phase =
      if met.getLast? = some spaceByte then .betweenWords else .insideWord := by
  rcases List.eq_nil_or_concat' met with rfl | ⟨earlier, last, rfl⟩
  · contradiction
  · rw [List.mem_append, List.mem_singleton, not_or] at noFeed
    have earlierGoesOn : (earlier.foldl step walk).phase ≠ .atLineFeed :=
      mt (phase_foldl_step_iff goesOn).mp noFeed.1
    rw [List.foldl_append, List.foldl_cons, List.foldl_nil,
      phase_step_eq earlierGoesOn (Ne.symm noFeed.2), List.getLast?_concat]
    simp only [Option.some.injEq]

theorem hasMet_foldl_step (goesOn : walk.phase ≠ .atLineFeed) (nonempty : met ≠ []) :
    walk.HasMet met (met.foldl step walk) where
  atLineFeed_iff := phase_foldl_step_iff goesOn
  wordEnds_eq := by
    have measured : (met.take (met.idxOf lineFeed)).length = met.idxOf lineFeed :=
      List.length_take_of_le List.idxOf_le_length
    rw [wordEnds_foldl_step goesOn, endedWords_eq_card, measured, UInt64.toNat_add,
      UInt64.toNat_ofNat', Nat.add_mod_mod]
    congr 3
    refine Finset.filter_congr fun index member => ?_
    exact endsWordAt_take_iff (Finset.mem_range.mp member)
  phase_eq := phase_foldl_step_eq goesOn nonempty

/-- The states of a walk end with the one that it has come to. -/
theorem getLast?_trace (walk : Walk) (met : List UInt8) :
    (walk.trace met).getLast? = some (met.foldl step walk) := by
  induction met generalizing walk with
  | nil => rfl
  | cons byte later ih =>
      rw [trace, List.getLast?_cons, ih, List.foldl_cons]
      rfl

end Walk

/-! ## The other end of the source -/

section Mirror

variable {sourceBytes : List UInt8} {offset : Nat}

theorem sub_le_length_reverse (sourceBytes : List UInt8) (offset : Nat) :
    sourceBytes.length - offset ≤ sourceBytes.reverse.length := by
  rw [List.length_reverse]
  exact Nat.sub_le _ _

/-- The bytes to the left of an offset lie to the right of it in the reversed source, in the same
order.
-/
theorem Direction.ahead_reverse (within : offset ≤ sourceBytes.length) :
    Direction.right.ahead sourceBytes.reverse (sourceBytes.length - offset) =
      Direction.left.ahead sourceBytes offset := by
  rw [ahead, ahead, List.drop_reverse, Nat.sub_sub_self within]

namespace Walk

variable {walk : Walk}

/-- Where a round leaves a walk, seen in the reversed source. -/
def Progress.mirror (length : Nat) : Progress → Progress
  | .ongoing walk offset => .ongoing walk (length - offset)
  | .over offset => .over (length - offset)

/-- A round to the left is a round to the right in the reversed source. -/
theorem round_reverse (within : offset ≤ sourceBytes.length) :
    walk.round sourceBytes.reverse .right (sourceBytes.length - offset) =
      (walk.round sourceBytes .left offset).map (Progress.mirror sourceBytes.length) := by
  have reversed := Direction.ahead_reverse within
  have reversedWithin := sub_le_length_reverse sourceBytes offset
  cases aheadIs : Direction.left.ahead sourceBytes offset with
  | nil =>
      rw [round_of_ahead_nil within aheadIs,
        round_of_ahead_nil reversedWithin (reversed.trans aheadIs)]
      rfl
  | cons byte later =>
      have positive : 0 < offset := by
        refine Nat.pos_of_ne_zero ?_
        rintro rfl
        contradiction
      rw [round_of_ahead_cons within aheadIs,
        round_of_ahead_cons reversedWithin (reversed.trans aheadIs)]
      cases (walk.step byte).stops with
      | true => rfl
      | false =>
          have moved : sourceBytes.length - offset + 1 = sourceBytes.length - (offset - 1) := by
            omega
          simp [Except.map, Progress.mirror, Direction.move, moved]

/-- A round that goes on has passed one byte. -/
theorem offset_eq_of_round_eq_ongoing {direction : Direction} {next : Walk} {place : Nat}
    (within : offset ≤ sourceBytes.length)
    (goesOn : walk.round sourceBytes direction offset = .ok (.ongoing next place)) :
    place = direction.move offset 1 := by
  cases aheadIs : direction.ahead sourceBytes offset with
  | nil =>
      rw [round_of_ahead_nil within aheadIs] at goesOn
      cases goesOn
  | cons byte later =>
      rw [round_of_ahead_cons within aheadIs] at goesOn
      split at goesOn
      · cases goesOn
      · cases goesOn
        rfl

/-- The rounds to the left are rounds to the right in the reversed source. -/
theorem rounds_reverse (within : offset ≤ sourceBytes.length) (count : Nat) :
    walk.rounds sourceBytes.reverse .right count (sourceBytes.length - offset) =
      (walk.rounds sourceBytes .left count offset).map (Progress.mirror sourceBytes.length) := by
  induction count generalizing walk offset with
  | zero => rfl
  | succ count ih =>
      rw [rounds, rounds, round_reverse within]
      cases step : walk.round sourceBytes .left offset with
      | error fault => rfl
      | ok progress =>
          rcases progress with ⟨next, place⟩ | place
          · have placeIs : place = offset - 1 := offset_eq_of_round_eq_ongoing within step
            have placeWithin : place ≤ sourceBytes.length := by omega
            exact ih placeWithin
          · rfl

end Walk

/-- A walk to the left stops where a walk to the right does in the reversed source. -/
theorem walk_left_eq_sub_walk_right (within : offset ≤ sourceBytes.length) :
    walk sourceBytes offset .left =
      sourceBytes.length - walk sourceBytes.reverse (sourceBytes.length - offset) .right := by
  have reversedWithin := sub_le_length_reverse sourceBytes offset
  have left := Walk.rounds_eq_over_walk within .left
  have right := Walk.rounds_eq_over_walk reversedWithin .right
  rw [Direction.ahead_reverse within, Walk.rounds_reverse within, left] at right
  have mirrored : sourceBytes.length - walk sourceBytes offset .left =
      walk sourceBytes.reverse (sourceBytes.length - offset) .right :=
    Walk.Progress.over.inj (Except.ok.inj right)
  have stopWithin : walk sourceBytes offset .left ≤ sourceBytes.length :=
    Nat.le_trans (Nat.sub_le _ _) within
  rw [← mirrored, Nat.sub_sub_self stopWithin]

end Mirror

/-- The states of a walk end with one that says what the bytes were, whatever the walk has met
before, and a walk to the left is, round by round, a walk to the right in the reversed source. -/
theorem Walk.hasMet_and_walk_reverse :
    (∀ (walk : Walk) (met : List UInt8), walk.phase ≠ .atLineFeed → met ≠ [] →
      (walk.trace met).getLast? = some (met.foldl step walk) ∧
        walk.HasMet met (met.foldl step walk)) ∧
      ∀ (sourceBytes : List UInt8) (offset : Nat), offset ≤ sourceBytes.length →
        (∀ count, start.rounds sourceBytes.reverse .right count (sourceBytes.length - offset) =
          (start.rounds sourceBytes .left count offset).map
            (Progress.mirror sourceBytes.length)) ∧
          Lexis.walk sourceBytes offset .left = sourceBytes.length -
            Lexis.walk sourceBytes.reverse (sourceBytes.length - offset) .right := by
  constructor
  · intro walk met goesOn nonempty
    exact ⟨getLast?_trace walk met, hasMet_foldl_step goesOn nonempty⟩
  · intro sourceBytes offset within
    exact ⟨rounds_reverse within, walk_left_eq_sub_walk_right within⟩

/-- A walk inside a word that meets two ends of words, and one from behind a line feed. -/
theorem Walk.hasMet_and_walk_reverse_of_words :
    let inWord : Walk := { phase := .insideWord, wordEnds := 2 }
    let met : List UInt8 := [spaceByte, 98, spaceByte, spaceByte, 99]
    let sourceBytes : List UInt8 := [97, lineFeed, 98, spaceByte, 99]
    inWord.HasMet met { phase := .insideWord, wordEnds := 4 } ∧
      Lexis.walk sourceBytes 4 .left = 5 - Lexis.walk sourceBytes.reverse 1 .right ∧
      Lexis.walk sourceBytes 4 .left = 2 := by
  intro inWord met sourceBytes
  have finalIs : met.foldl step inWord = { phase := .insideWord, wordEnds := 4 } := by
    decide +kernel
  have read := (hasMet_and_walk_reverse.1 inWord met (by decide) (by decide)).2
  have mirrored := (hasMet_and_walk_reverse.2 sourceBytes 4 (by decide)).2
  rw [finalIs] at read
  exact ⟨read, mirrored, by decide +kernel⟩

end Lexis
