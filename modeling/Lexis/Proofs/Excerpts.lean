import Lexis.Excerpt
import Lexis.Proofs.Cuts

/-!
# Windows end between characters

A walk goes byte by byte and may start inside a character, so nothing is gained from looking at its
single steps. What keeps the window in step with the characters is the reason for which a walk
stops: it stops at an end of the source, or next to the line feed or the space that stopped it, and
a text can be cut on both sides of these. The excerpt of a window can therefore always be taken.
-/

namespace Lexis

namespace Walk

theorem stops_step_lineFeed (walk : Walk) : (walk.step lineFeed).stops = true := by
  rcases walk with ⟨phase, wordEnds⟩
  cases phase <;> rfl

/-- Only a line feed or a space stops a walk that has not stopped yet. -/
theorem stopper_of_stops_step {walk : Walk} {byte : UInt8} (goesOn : walk.stops = false)
    (stopped : (walk.step byte).stops = true) : byte = lineFeed ∨ byte = spaceByte := by
  by_cases feed : byte = lineFeed
  · exact Or.inl feed
  by_cases space : byte = spaceByte
  · exact Or.inr space
  rcases walk with ⟨phase, wordEnds⟩
  cases phase with
  | atLineFeed => simp [stops, Phase.isFinal] at goesOn
  | fresh =>
      simp [step, feed, space, stops, Phase.isFinal] at goesOn stopped
      omega
  | betweenWords =>
      simp [step, feed, space, stops, Phase.isFinal] at goesOn stopped
      omega
  | insideWord =>
      simp [step, feed, space, stops, Phase.isFinal] at goesOn stopped
      omega

/-- A walk passes the bytes up to its stopper, or all of them if it meets none. -/
theorem exists_stopper {walk : Walk} (goesOn : walk.stops = false) (ahead : List UInt8) :
    ∃ passed left, ahead = passed ++ left ∧ passed.length = walk.reach ahead ∧
      ∀ byte ∈ left.head?, byte = lineFeed ∨ byte = spaceByte := by
  induction ahead generalizing walk with
  | nil => exact ⟨[], [], rfl, rfl, by simp⟩
  | cons byte later ih =>
      cases stopped : (walk.step byte).stops with
      | true =>
          refine ⟨[], byte :: later, rfl, by simp [reach, stopped], ?_⟩
          intro head headIs
          simp only [List.head?_cons, Option.mem_some_iff] at headIs
          subst headIs
          exact stopper_of_stops_step goesOn stopped
      | false =>
          rcases ih stopped with ⟨passed, left, rfl, measured, stopper⟩
          exact ⟨byte :: passed, left, rfl, by simp [reach, stopped, measured], stopper⟩

end Walk

namespace Text

theorem isBoundary_of_stopper {text : List Char} {front back : List UInt8}
    (parts : bytes text = front ++ back)
    (stopper : ∀ byte ∈ back.head?, byte = lineFeed ∨ byte = spaceByte) :
    IsBoundary text front.length := by
  cases back with
  | nil =>
      refine ⟨text, [], by simp, ?_⟩
      have measured := congrArg List.length parts
      simpa using measured
  | cons byte rest =>
      have ascii : byte.toNat < 128 := by
        rcases stopper byte rfl with rfl | rfl <;> decide
      rcases exists_char_of_ascii_byte parts ascii with ⟨before, char, after, rfl, rfl, -⟩
      exact ⟨before, char :: after, rfl, (length_bytes before).symm⟩

theorem isBoundary_behind_stopper {text : List Char} {front back : List UInt8}
    (parts : bytes text = front ++ back)
    (stopper : ∀ byte ∈ front.getLast?, byte = lineFeed ∨ byte = spaceByte) :
    IsBoundary text front.length := by
  rcases List.eq_nil_or_concat front with rfl | ⟨earlier, byte, rfl⟩
  · exact ⟨[], text, rfl, rfl⟩
  · have ascii : byte.toNat < 128 := by
      rcases stopper byte (by simp) with rfl | rfl <;> decide
    rw [List.concat_eq_append, List.append_assoc] at parts
    rcases exists_char_of_ascii_byte parts ascii with ⟨before, char, after, rfl, rfl, encoded⟩
    refine ⟨before ++ [char], after, by simp, ?_⟩
    rw [← length_bytes]
    simp [encoded]

/-- Two boundaries in order cut a text into three pieces. -/
theorem exists_pieces_of_boundaries {text : List Char} {start stop : Nat}
    (startBoundary : IsBoundary text start) (stopBoundary : IsBoundary text stop)
    (ordered : start ≤ stop) :
    ∃ before inner after, text = before ++ (inner ++ after) ∧ size before = start ∧
      size before + size inner = stop := by
  rcases startBoundary with ⟨before, behindStart, startParts, rfl⟩
  rcases stopBoundary with ⟨front, after, stopParts, rfl⟩
  have beforeBegins : before <+: text := ⟨behindStart, startParts.symm⟩
  have frontBegins : front <+: text := ⟨after, stopParts.symm⟩
  have shorter := (size_le_size_iff beforeBegins frontBegins).mp ordered
  rcases List.prefix_of_prefix_length_le beforeBegins frontBegins shorter with ⟨inner, rfl⟩
  exact ⟨before, inner, after, by simpa using stopParts, rfl, by simp⟩

end Text

theorem window_start_le (source : String) (offset : Nat) :
    (window source offset).start ≤ min offset (Text.size source.toList) := by
  simp [window, walk]

theorem le_window_stop (source : String) (offset : Nat) :
    min offset (Text.size source.toList) ≤ (window source offset).stop := by
  simp [window, walk]

theorem window_stop_le (source : String) (offset : Nat) :
    (window source offset).stop ≤ Text.size source.toList := by
  have reached := Walk.start.reach_le_length
    ((Text.bytes source.toList).drop (min offset (Text.bytes source.toList).length))
  simp only [List.length_drop, Text.length_bytes] at reached
  simp only [window, walk, Text.length_bytes]
  omega

theorem isBoundary_window_start (source : String) (offset : Nat) :
    Text.IsBoundary source.toList (window source offset).start := by
  have goesOn : Walk.start.stops = false := rfl
  let sourceBytes := Text.bytes source.toList
  let place := min offset sourceBytes.length
  rcases Walk.exists_stopper goesOn (sourceBytes.take place).reverse with
    ⟨passed, left, walked, measured, stopper⟩
  have front : sourceBytes.take place = left.reverse ++ passed.reverse := by
    rw [← List.reverse_append, ← walked, List.reverse_reverse]
  have parts : sourceBytes = left.reverse ++ (passed.reverse ++ sourceBytes.drop place) := by
    rw [← List.append_assoc, ← front, List.take_append_drop]
  have boundary := Text.isBoundary_behind_stopper parts (by simpa using stopper)
  have frontLength := congrArg List.length front
  simp only [List.length_take, List.length_append, List.length_reverse] at frontLength
  have startIs : (window source offset).start = left.reverse.length := by
    have placeIs : min place sourceBytes.length = place := by omega
    change place - Walk.start.reach (sourceBytes.take place).reverse = left.reverse.length
    rw [← measured, List.length_reverse]
    omega
  rw [startIs]
  exact boundary

theorem isBoundary_window_stop (source : String) (offset : Nat) :
    Text.IsBoundary source.toList (window source offset).stop := by
  have goesOn : Walk.start.stops = false := rfl
  let sourceBytes := Text.bytes source.toList
  let place := min offset sourceBytes.length
  rcases Walk.exists_stopper goesOn (sourceBytes.drop place) with
    ⟨passed, left, walked, measured, stopper⟩
  have parts : sourceBytes = (sourceBytes.take place ++ passed) ++ left := by
    rw [List.append_assoc, ← walked, List.take_append_drop]
  have boundary := Text.isBoundary_of_stopper parts stopper
  have stopIs : (window source offset).stop = (sourceBytes.take place ++ passed).length := by
    have placeIs : min place sourceBytes.length = place := by omega
    change place + Walk.start.reach (sourceBytes.drop place) = _
    rw [← measured, List.length_append, List.length_take, placeIs]
  rw [stopIs]
  exact boundary

/-- A window cuts its source into three texts. -/
theorem exists_window_parts (source : String) (offset : Nat) :
    ∃ before inner after, source.toList = before ++ (inner ++ after) ∧
      window source offset =
        { start := Text.size before, stop := Text.size before + Text.size inner } := by
  have ordered : (window source offset).start ≤ (window source offset).stop :=
    Nat.le_trans (window_start_le source offset) (le_window_stop source offset)
  rcases Text.exists_pieces_of_boundaries (isBoundary_window_start source offset)
    (isBoundary_window_stop source offset) ordered with ⟨before, inner, after, parts, start, stop⟩
  refine ⟨before, inner, after, parts, ?_⟩
  rw [stop, start]

/-- The excerpt is the middle one of the three texts without the blanks at its ends. -/
theorem excerpt_of_window {source : String} {offset : Nat} {before inner after : List Char}
    (parts : source.toList = before ++ (inner ++ after))
    (windowIs : window source offset =
      { start := Text.size before, stop := Text.size before + Text.size inner }) :
    excerpt source offset = String.ofList (Text.trim inner) := by
  have cutStart : Text.splitAtByte? source.toList (Text.size before) =
      some (before, inner ++ after) :=
    Text.splitAtByte?_eq_some_iff.mpr ⟨parts, rfl⟩
  have cutStop : Text.splitAtByte? (inner ++ after)
      (Text.size before + Text.size inner - Text.size before) = some (inner, after) :=
    Text.splitAtByte?_eq_some_iff.mpr ⟨rfl, (Nat.add_sub_cancel_left _ _).symm⟩
  simp only [excerpt, windowIs, Text.slice?, cutStart, cutStop, Option.bind_eq_bind,
    Option.bind_some, Option.pure_def, Option.getD_some]

/-- The text of a window can be taken out of its source whatever the offset, and the excerpt is that
text without the blanks at its ends. -/
theorem excerpt_eq_trim_slice (source : String) (offset : Nat) :
    ∃ inner, sliceAt source (window source offset).start (window source offset).stop = .ok inner ∧
      excerpt source offset = String.ofList (Text.trim inner) := by
  rcases exists_window_parts source offset with ⟨before, inner, after, parts, windowIs⟩
  refine ⟨inner, ?_, excerpt_of_window parts windowIs⟩
  rw [windowIs]
  exact sliceAt_of_parts parts

end Lexis
