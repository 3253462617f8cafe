import Lexis.Proofs.Excerpts
import Mathlib.Algebra.BigOperators.Intervals
import Mathlib.Order.Bounds.Basic

/-!
# How far a window goes

A walk remembers of the bytes it has met whether the last one belongs to a word, and how many words
have ended. Both can be read off the bytes themselves: a word ends at each space that directly
follows a byte that is none. So a walk reaches exactly as far as it meets no line feed and fewer
ends of words than it may, and the two ends of a window are the first and the last offset of which
this is true.
-/

namespace Lexis

namespace Walk

/-- The number of spaces at which a word ends, among the bytes that a walk meets. A space ends a
word where the byte before it is no space; the first byte ends one where the walk is already inside
a word. -/
def endedWords (inside : Bool) : List UInt8 → Nat
  | [] => 0
  | byte :: later =>
      if byte = spaceByte then endedWords false later + inside.toNat else endedWords true later

theorem endedWords_cons (inside : Bool) (byte : UInt8) (later : List UInt8) :
    endedWords inside (byte :: later) =
      endedWords inside [byte] + endedWords (byte != spaceByte) later := by
  by_cases space : byte = spaceByte
  · simp [endedWords, space, Nat.add_comm]
  · have other : (byte != spaceByte) = true := bne_iff_ne.mpr space
    simp [endedWords, space, other]

theorem endedWords_singleton_le (inside : Bool) (byte : UInt8) : endedWords inside [byte] ≤ 1 := by
  by_cases space : byte = spaceByte
  · simpa [endedWords, space] using Bool.toNat_le inside
  · simp [endedWords, space]

/-- A walk is inside a word. -/
def isInside (walk : Walk) : Bool :=
  walk.phase = .insideWord

section Step

variable {walk : Walk} {byte : UInt8}

/-- A byte other than a line feed decides by itself whether the walk is inside a word. -/
theorem phase_step_eq (goesOn : walk.phase ≠ .atLineFeed) (notFeed : byte ≠ lineFeed) :
    (walk.step byte).phase = if byte = spaceByte then .betweenWords else .insideWord := by
  rcases walk with ⟨phase, wordEnds⟩
  cases phase with
  | atLineFeed => contradiction
  | fresh => simp only [step, notFeed, if_false]; split <;> rfl
  | betweenWords => simp only [step, notFeed, if_false]; split <;> rfl
  | insideWord => simp only [step, notFeed, if_false]; split <;> rfl

theorem phase_step_ne (goesOn : walk.phase ≠ .atLineFeed) (notFeed : byte ≠ lineFeed) :
    (walk.step byte).phase ≠ .atLineFeed := by
  rw [phase_step_eq goesOn notFeed]
  split <;> simp

theorem isInside_step (goesOn : walk.phase ≠ .atLineFeed) (notFeed : byte ≠ lineFeed) :
    (walk.step byte).isInside = (byte != spaceByte) := by
  rw [isInside, phase_step_eq goesOn notFeed]
  by_cases space : byte = spaceByte
  · simp [space]
  · simp [space]

/-- A step counts the word that its byte ends. -/
theorem wordEnds_step (goesOn : walk.phase ≠ .atLineFeed) (notFeed : byte ≠ lineFeed) :
    (walk.step byte).wordEnds =
      walk.wordEnds + (endedWords walk.isInside [byte] : Count) := by
  rcases walk with ⟨phase, wordEnds⟩
  rcases Decidable.em (byte = spaceByte) with rfl | notSpace
  · cases phase with
    | atLineFeed => contradiction
    | fresh => simp [step, notFeed, endedWords, isInside]
    | betweenWords => simp [step, notFeed, endedWords, isInside]
    | insideWord => simp [step, notFeed, endedWords, isInside]
  · cases phase with
    | atLineFeed => contradiction
    | fresh => simp [step, notFeed, notSpace, endedWords]
    | betweenWords => simp [step, notFeed, notSpace, endedWords]
    | insideWord => simp [step, notFeed, notSpace, endedWords]

-- the count of a walk that has met the greatest number of ends of words starts again
example : step { phase := .insideWord, wordEnds := 18446744073709551615 } spaceByte =
    { phase := .betweenWords, wordEnds := 0 } := by
  decide

/-- Below the limit the count does not start again. -/
theorem toNat_wordEnds_step (goesOn : walk.phase ≠ .atLineFeed) (notFeed : byte ≠ lineFeed)
    (few : walk.wordEnds.toNat < wordLimit) :
    (walk.step byte).wordEnds.toNat = walk.wordEnds.toNat + endedWords walk.isInside [byte] := by
  have atMostOne := endedWords_singleton_le walk.isInside byte
  have small : walk.wordEnds.toNat < 5 := few
  rw [wordEnds_step goesOn notFeed, UInt64.toNat_add, UInt64.toNat_ofNat']
  omega

theorem stops_eq_false_iff :
    walk.stops = false ↔ walk.phase ≠ .atLineFeed ∧ walk.wordEnds.toNat < wordLimit := by
  simp [stops, Phase.isFinal]

end Step

/-- A walk passes as many bytes as hold no line feed and do not end too many words. -/
theorem le_reach_iff {walk : Walk} (goesOn : walk.stops = false) {ahead : List UInt8}
    {count : Nat} :
    count ≤ walk.reach ahead ↔
      count ≤ ahead.length ∧ lineFeed ∉ ahead.take count ∧
        walk.wordEnds.toNat + endedWords walk.isInside (ahead.take count) < wordLimit := by
  induction ahead generalizing walk count with
  | nil =>
      have fewEnds := (stops_eq_false_iff.mp goesOn).2
      simp [reach, endedWords, fewEnds]
  | cons byte later ih =>
      rcases stops_eq_false_iff.mp goesOn with ⟨notFinal, fewEnds⟩
      cases count with
      | zero => simp [endedWords, fewEnds]
      | succ count =>
          rcases Decidable.em (byte = lineFeed) with rfl | notFeed
          · simp [reach, stops_step_lineFeed]
          · have counted := toNat_wordEnds_step notFinal notFeed fewEnds
            rw [List.take_succ_cons, endedWords_cons, ← Nat.add_assoc, ← counted,
              ← isInside_step notFinal notFeed]
            cases stopped : (walk.step byte).stops with
            | true =>
                -- without a line feed only the ends of words can stop the walk
                have tooMany : wordLimit ≤ (walk.step byte).wordEnds.toNat := by
                  simpa [stops, Phase.isFinal, phase_step_ne notFinal notFeed] using stopped
                simp only [reach, stopped, if_true]
                constructor
                · intro impossible
                  omega
                · rintro ⟨-, -, few⟩
                  omega
            | false =>
                simp [reach, stopped, ih stopped, Ne.symm notFeed]

theorem le_reach_start_iff {ahead : List UInt8} {count : Nat} :
    count ≤ start.reach ahead ↔
      count ≤ ahead.length ∧ lineFeed ∉ ahead.take count ∧
        endedWords false (ahead.take count) < wordLimit := by
  have goesOn : start.stops = false := rfl
  simpa [start, isInside] using le_reach_iff goesOn

/-- A word ends at an index of the bytes that a walk meets: a space stands there, and the byte met
before it is none. -/
def EndsWordAt (inside : Bool) (met : List UInt8) (index : Nat) : Prop :=
  met[index]? = some spaceByte ∧
    match index with
    | 0 => inside = true
    | previous + 1 => met[previous]? ≠ some spaceByte

instance (inside : Bool) (met : List UInt8) : DecidablePred (EndsWordAt inside met)
  | 0 => inferInstanceAs (Decidable (_ ∧ _))
  | _ + 1 => inferInstanceAs (Decidable (_ ∧ _))

/-- The ended words are as many as the indices at which a word ends. -/
theorem endedWords_eq_card (inside : Bool) (met : List UInt8) :
    endedWords inside met = ((Finset.range met.length).filter (EndsWordAt inside met)).card := by
  induction met generalizing inside with
  | nil => rfl
  | cons byte later ih =>
      have shifted (index : Nat) : EndsWordAt inside (byte :: later) (index + 1) ↔
          EndsWordAt (byte != spaceByte) later index := by
        cases index <;> simp [EndsWordAt]
      rw [Finset.card_filter, List.length_cons, Finset.sum_range_succ']
      simp only [shifted]
      rw [← Finset.card_filter, ← ih]
      rcases Decidable.em (byte = spaceByte) with rfl | notSpace
      · cases inside <;> simp [endedWords, EndsWordAt]
      · have isWord : (byte != spaceByte) = true := by simpa using notSpace
        simp [endedWords, EndsWordAt, notSpace, isWord]

end Walk

/-! ## The two ends of a window -/

/-- A range of bytes without a line feed. -/
def InOneLine (sourceBytes : List UInt8) (start stop : Nat) : Prop :=
  ∀ index, start ≤ index → index < stop → sourceBytes[index]? ≠ some lineFeed

/-- The indices of a range at which a word ends for a walk that comes from the right: a space stands
there, and the next byte is in the range and is none. -/
def wordEndsLeftward (sourceBytes : List UInt8) (start stop : Nat) : Finset Nat :=
  (Finset.Ico start stop).filter fun index => index + 1 < stop ∧
    sourceBytes[index]? = some spaceByte ∧ sourceBytes[index + 1]? ≠ some spaceByte

/-- The indices of a range at which a word ends for a walk that comes from the left: a space stands
there, and the byte before is in the range and is none. -/
def wordEndsRightward (sourceBytes : List UInt8) (start stop : Nat) : Finset Nat :=
  (Finset.Ico start stop).filter fun index => start < index ∧
    sourceBytes[index]? = some spaceByte ∧ sourceBytes[index - 1]? ≠ some spaceByte

/-- The offsets at which a window around a place may start: from there to the place no line feed and
fewer than five ends of words are met. -/
def possibleStarts (sourceBytes : List UInt8) (place : Nat) : Set Nat :=
  {start | start ≤ place ∧ InOneLine sourceBytes start place ∧
    (wordEndsLeftward sourceBytes start place).card < 5}

/-- The offsets at which a window around a place may stop: from the place to there no line feed and
fewer than five ends of words are met. -/
def possibleStops (sourceBytes : List UInt8) (place : Nat) : Set Nat :=
  {stop | place ≤ stop ∧ stop ≤ sourceBytes.length ∧ InOneLine sourceBytes place stop ∧
    (wordEndsRightward sourceBytes place stop).card < 5}

section Walks

variable {sourceBytes : List UInt8} {place count : Nat}

theorem getElem?_take_drop {index : Nat} (passed : index < count) :
    ((sourceBytes.drop place).take count)[index]? = sourceBytes[place + index]? := by
  rw [List.getElem?_take_of_lt passed, List.getElem?_drop]

theorem getElem?_take_reverse_take {index : Nat} (within : place ≤ sourceBytes.length)
    (fits : count ≤ place) (passed : index < count) :
    ((sourceBytes.take place).reverse.take count)[index]? = sourceBytes[place - 1 - index]? := by
  have measured : (sourceBytes.take place).length = place := by simp [within]
  rw [List.getElem?_take_of_lt passed, List.getElem?_reverse (by omega), measured,
    List.getElem?_take_of_lt (by omega)]

theorem not_mem_take_iff {sought : UInt8} {ahead : List UInt8} :
    sought ∉ ahead.take count ↔ ∀ index < count, (ahead.take count)[index]? ≠ some sought := by
  rw [List.mem_iff_getElem?, not_exists]
  refine forall_congr' fun index => ⟨fun absent _ => absent, fun absent found => ?_⟩
  rcases List.getElem?_eq_some_iff.mp found with ⟨inTake, -⟩
  rw [List.length_take] at inTake
  exact absent (by omega) found

theorem inOneLine_rightward_iff :
    InOneLine sourceBytes place (place + count) ↔
      lineFeed ∉ (sourceBytes.drop place).take count := by
  rw [not_mem_take_iff]
  constructor
  · intro noFeed index passed
    rw [getElem?_take_drop passed]
    exact noFeed (place + index) (by omega) (by omega)
  · intro noFeed index atLeast below
    have absent := noFeed (index - place) (by omega)
    rwa [getElem?_take_drop (by omega), Nat.add_sub_cancel' atLeast] at absent

theorem inOneLine_leftward_iff (within : place ≤ sourceBytes.length) (fits : count ≤ place) :
    InOneLine sourceBytes (place - count) place ↔
      lineFeed ∉ (sourceBytes.take place).reverse.take count := by
  rw [not_mem_take_iff]
  constructor
  · intro noFeed index passed
    rw [getElem?_take_reverse_take within fits passed]
    exact noFeed (place - 1 - index) (by omega) (by omega)
  · intro noFeed index atLeast below
    have absent := noFeed (place - 1 - index) (by omega)
    have restored : place - 1 - (place - 1 - index) = index := by omega
    rwa [getElem?_take_reverse_take within fits (by omega), restored] at absent

theorem card_wordEndsRightward (within : place + count ≤ sourceBytes.length) :
    (wordEndsRightward sourceBytes place (place + count)).card =
      Walk.endedWords false ((sourceBytes.drop place).take count) := by
  have measured : ((sourceBytes.drop place).take count).length = count := by simp; omega
  rw [Walk.endedWords_eq_card, measured, wordEndsRightward, Finset.card_filter, Finset.card_filter,
    Finset.sum_Ico_eq_sum_range, Nat.add_sub_cancel_left]
  refine Finset.sum_congr rfl fun index member => if_congr ?_ rfl rfl
  have passed : index < count := Finset.mem_range.mp member
  cases index with
  | zero => simp [Walk.EndsWordAt]
  | succ previous =>
      have before : place + (previous + 1) - 1 = place + previous := by omega
      simp [Walk.EndsWordAt, getElem?_take_drop passed,
        getElem?_take_drop (Nat.lt_of_succ_lt passed), before]

theorem card_wordEndsLeftward (within : place ≤ sourceBytes.length) (fits : count ≤ place) :
    (wordEndsLeftward sourceBytes (place - count) place).card =
      Walk.endedWords false ((sourceBytes.take place).reverse.take count) := by
  have measured : ((sourceBytes.take place).reverse.take count).length = count := by
    simp; omega
  rw [Walk.endedWords_eq_card, measured, wordEndsLeftward, Finset.card_filter, Finset.card_filter,
    Finset.sum_Ico_eq_sum_range, Nat.sub_sub_self fits, ← Finset.sum_range_reflect]
  refine Finset.sum_congr rfl fun index member => if_congr ?_ rfl rfl
  have passed : index < count := Finset.mem_range.mp member
  -- the walk meets the bytes from the place down, so the reflected sum runs in its order
  have mirrored : place - count + (count - 1 - index) = place - 1 - index := by omega
  rw [mirrored]
  cases index with
  | zero =>
      have outermost : ¬ place - 1 + 1 < place := by omega
      simp [Walk.EndsWordAt, outermost]
  | succ previous =>
      have next : place - 1 - (previous + 1) + 1 = place - 1 - previous := by omega
      have inner : place - 1 - previous < place := by omega
      simp [Walk.EndsWordAt, getElem?_take_reverse_take within fits passed,
        getElem?_take_reverse_take within fits (Nat.lt_of_succ_lt passed), next, inner]

/-- A walk to the right passes the bytes of a range exactly if they are in one line and fewer words
end in the range than a walk may meet. -/
theorem le_reach_drop_iff (within : place ≤ sourceBytes.length) :
    count ≤ Walk.start.reach (sourceBytes.drop place) ↔
      count ≤ sourceBytes.length - place ∧ InOneLine sourceBytes place (place + count) ∧
        (wordEndsRightward sourceBytes place (place + count)).card < Walk.wordLimit := by
  rw [Walk.le_reach_start_iff, List.length_drop]
  refine and_congr_right fun fits => ?_
  rw [inOneLine_rightward_iff, card_wordEndsRightward (by omega)]

theorem le_reach_reverse_take_iff (within : place ≤ sourceBytes.length) :
    count ≤ Walk.start.reach (sourceBytes.take place).reverse ↔
      count ≤ place ∧ InOneLine sourceBytes (place - count) place ∧
        (wordEndsLeftward sourceBytes (place - count) place).card < Walk.wordLimit := by
  have measured : (sourceBytes.take place).reverse.length = place := by simp [within]
  rw [Walk.le_reach_start_iff, measured]
  refine and_congr_right fun fits => ?_
  rw [inOneLine_leftward_iff within fits, card_wordEndsLeftward within fits]

/-- A walk to the left ends at the first offset at which a window may start. -/
theorem isLeast_walk_left (within : place ≤ sourceBytes.length) :
    IsLeast (possibleStarts sourceBytes place) (walk sourceBytes place .left) := by
  let reached := Walk.start.reach (sourceBytes.take place).reverse
  change IsLeast (possibleStarts sourceBytes place) (place - reached)
  constructor
  · rcases (le_reach_reverse_take_iff within).mp (Nat.le_refl reached) with ⟨-, inOneLine, fewEnds⟩
    exact ⟨Nat.sub_le _ _, inOneLine, fewEnds⟩
  · rintro start ⟨atMost, inOneLine, fewEnds⟩
    have restored : place - (place - start) = start := Nat.sub_sub_self atMost
    have passed : place - start ≤ reached := (le_reach_reverse_take_iff within).mpr
      ⟨Nat.sub_le _ _, restored.symm ▸ inOneLine, restored.symm ▸ fewEnds⟩
    omega

/-- A walk to the right ends at the last offset at which a window may stop. -/
theorem isGreatest_walk_right (within : place ≤ sourceBytes.length) :
    IsGreatest (possibleStops sourceBytes place) (walk sourceBytes place .right) := by
  let reached := Walk.start.reach (sourceBytes.drop place)
  change IsGreatest (possibleStops sourceBytes place) (place + reached)
  constructor
  · rcases (le_reach_drop_iff within).mp (Nat.le_refl reached) with ⟨fits, inOneLine, fewEnds⟩
    exact ⟨Nat.le_add_right _ _, by omega, inOneLine, fewEnds⟩
  · rintro stop ⟨atLeast, inSource, inOneLine, fewEnds⟩
    have restored : place + (stop - place) = stop := Nat.add_sub_cancel' atLeast
    have passed : stop - place ≤ reached := (le_reach_drop_iff within).mpr
      ⟨by omega, restored.symm ▸ inOneLine, restored.symm ▸ fewEnds⟩
    omega

end Walks

/-- The window around an offset goes from the first offset at which it may start to the last one at
which it may stop. An offset past the end of the source stands for the end. -/
theorem window_isLeast_and_isGreatest (source : String) (offset : Nat) :
    IsLeast (possibleStarts (Text.bytes source.toList) (min offset (Text.size source.toList)))
        (window source offset).start ∧
      IsGreatest (possibleStops (Text.bytes source.toList) (min offset (Text.size source.toList)))
        (window source offset).stop := by
  rw [← Text.length_bytes]
  have within : min offset (Text.bytes source.toList).length ≤ (Text.bytes source.toList).length :=
    Nat.min_le_right _ _
  exact ⟨isLeast_walk_left within, isGreatest_walk_right within⟩

end Lexis
