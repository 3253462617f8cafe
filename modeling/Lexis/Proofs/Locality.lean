import Lexis.Proofs.Shifts
import Lexis.Proofs.WalkRounds

/-!
# What a window depends on

A walk forgets a byte as soon as it has passed the next one, and it never learns what lies behind
its stopper. So cutting a source at the line feeds around a place only moves the window there, and
cutting it at the two ends of the window itself leaves the whole window. What is quoted at a place
is therefore settled by the line of the place: sources that agree on that line quote the same,
whatever else they hold.
-/

namespace Lexis

/-- The offset behind the last line feed before a place of a source, or 0 without one. -/
def startOfLine (source : String) (place : Nat) : Nat :=
  let met := ((Text.bytes source.toList).take place).reverse
  place - (met.takeWhile (· != lineFeed)).length

/-- The offset of the first line feed at a place of a source or behind it, or the end without one.
-/
def endOfLine (source : String) (place : Nat) : Nat :=
  let met := (Text.bytes source.toList).drop place
  place + (met.takeWhile (· != lineFeed)).length

/-- The text between the line feeds around a place of a source. -/
def lineAround (source : String) (place : Nat) : Except Fault (List Char) :=
  sliceAt source (startOfLine source place) (endOfLine source place)

/-! ## Walks in a part of a source -/

namespace Walk

/-- A walk with fewer bytes ahead gets as far as before or to the last of them. -/
theorem reach_take (walk : Walk) (ahead : List UInt8) (count : Nat) :
    walk.reach (ahead.take count) = min count (walk.reach ahead) := by
  induction ahead generalizing walk count with
  | nil => simp [reach]
  | cons byte later ih =>
      cases count with
      | zero => simp [reach]
      | succ count =>
          simp only [List.take_succ_cons, reach]
          split
          · exact (Nat.min_zero _).symm
          · rw [ih, Nat.succ_min_succ]

theorem reach_of_prefix {ahead passed left : List UInt8} {walk : Walk}
    (parts : ahead = passed ++ left) (reached : walk.reach ahead = passed.length) :
    walk.reach passed = passed.length := by
  have shortened := walk.reach_take ahead passed.length
  rwa [reached, Nat.min_self, parts, List.take_left] at shortened

end Walk

/-- A walk does not see what lies behind a line feed. -/
theorem walk_append_right {front behind : List UInt8}
    (stops : ∀ byte ∈ behind.head?, byte = lineFeed) {place : Nat}
    (within : place ≤ front.length) (direction : Direction) :
    walk (front ++ behind) place direction = walk front place direction := by
  cases direction with
  | left => rw [walk, walk, List.take_append_of_le_length within]
  | right =>
      rw [walk, walk, List.drop_append_of_le_length within, Walk.reach_append_of_head? stops]

theorem window_of_le {source : String} {place : Nat} (within : place ≤ Text.size source.toList) :
    window source place =
      { start := walk (Text.bytes source.toList) place .left
        stop := walk (Text.bytes source.toList) place .right } := by
  rw [← Text.length_bytes] at within
  simp only [window, Nat.min_eq_left within]

/-! ## The line of a place -/

/-- The line of a place is cut out of a source: line feeds or the ends of the source are around it.
-/
structure LineCut (source : String) (place : Nat) (before line behind : List Char) : Prop where
  parts : source.toList = before ++ (line ++ behind)
  start_eq : Text.size before = startOfLine source place
  stop_eq : Text.size before + Text.size line = endOfLine source place
  opens : ∀ byte ∈ (Text.bytes before).getLast?, byte = lineFeed
  ends : ∀ byte ∈ (Text.bytes behind).head?, byte = lineFeed

/-- The bytes that are met before the first line feed, and the others. -/
theorem exists_run (met : List UInt8) :
    ∃ run left, met = run ++ left ∧ run.length = (met.takeWhile (· != lineFeed)).length ∧
      ∀ byte ∈ left.head?, byte = lineFeed := by
  refine ⟨_, _, List.takeWhile_append_dropWhile.symm, rfl, ?_⟩
  intro byte member
  have stopper := List.head?_dropWhile_not (· != lineFeed) met
  rw [Option.mem_def.mp member] at stopper
  simpa using stopper

/-- Bytes of a text between two stoppers are the bytes of a piece of the text. -/
theorem Text.exists_pieces_of_stoppers {text : List Char} {front inner back : List UInt8}
    (parts : bytes text = front ++ (inner ++ back))
    (opens : ∀ byte ∈ front.getLast?, byte = lineFeed ∨ byte = spaceByte)
    (ends : ∀ byte ∈ back.head?, byte = lineFeed ∨ byte = spaceByte) :
    ∃ before middle after, text = before ++ (middle ++ after) ∧ bytes before = front ∧
      bytes middle = inner ∧ bytes after = back := by
  have partsBehind : bytes text = (front ++ inner) ++ back := by rw [parts, List.append_assoc]
  have startBoundary := isBoundary_behind_stopper parts opens
  have stopBoundary := isBoundary_of_stopper partsBehind ends
  have ordered : front.length ≤ (front ++ inner).length := by simp
  rcases exists_pieces_of_boundaries startBoundary stopBoundary ordered with
    ⟨before, middle, after, rfl, startIs, stopIs⟩
  rw [bytes_append, bytes_append] at parts
  rw [List.length_append, ← startIs] at stopIs
  have beforeIs : bytes before = front := List.append_inj_left parts (by simpa using startIs)
  have behindIs : bytes middle ++ bytes after = inner ++ back :=
    List.append_inj_right parts (by simpa using startIs)
  have middleSize : (bytes middle).length = inner.length := by
    rw [length_bytes]
    exact Nat.add_left_cancel stopIs
  exact ⟨before, middle, after, rfl, beforeIs, List.append_inj behindIs middleSize⟩

theorem exists_lineCut {source : String} {place : Nat} (within : place ≤ Text.size source.toList) :
    ∃ before line behind, LineCut source place before line behind := by
  let sourceBytes := Text.bytes source.toList
  rcases exists_run (sourceBytes.take place).reverse with ⟨back, front, met, backLength, opens⟩
  rcases exists_run (sourceBytes.drop place) with ⟨ahead, rear, metAhead, aheadLength, ends⟩
  have taken : sourceBytes.take place = front.reverse ++ back.reverse := by
    rw [← List.reverse_append, ← met, List.reverse_reverse]
  have whole : sourceBytes = front.reverse ++ ((back.reverse ++ ahead) ++ rear) := by
    rw [List.append_assoc, ← List.append_assoc, ← taken, ← metAhead, List.take_append_drop]
  rcases Text.exists_pieces_of_stoppers whole
    (fun byte member => Or.inl (opens byte (by simpa using member)))
    (fun byte member => Or.inl (ends byte member)) with
    ⟨before, line, behind, parts, beforeIs, lineIs, behindIs⟩
  have lengths := congrArg List.length taken
  rw [List.length_take_of_le (by simpa [sourceBytes] using within), List.length_append,
    List.length_reverse, List.length_reverse] at lengths
  have startIs : Text.size before = startOfLine source place := by
    rw [← Text.length_bytes, beforeIs, List.length_reverse, startOfLine, ← backLength]
    omega
  refine ⟨before, line, behind, parts, startIs, ?_, ?_, ?_⟩
  · rw [← Text.length_bytes, ← Text.length_bytes, beforeIs, lineIs, endOfLine, ← aheadLength,
      List.length_append, List.length_reverse, List.length_reverse]
    omega
  · simpa [beforeIs] using opens
  · simpa [behindIs] using ends

namespace LineCut

variable {source : String} {place : Nat} {before line behind : List Char}

theorem lineAround_eq (cut : LineCut source place before line behind) :
    lineAround source place = .ok line := by
  rw [lineAround, ← cut.start_eq, ← cut.stop_eq]
  exact sliceAt_of_parts cut.parts

theorem column_le (cut : LineCut source place before line behind) :
    place - startOfLine source place ≤ Text.size line := by
  have notBehind : place ≤ endOfLine source place := Nat.le_add_right _ _
  rw [← cut.stop_eq] at notBehind
  rw [← cut.start_eq]
  omega

/-- The window of a place is the one in its line. -/
theorem window_eq (cut : LineCut source place before line behind)
    (within : place ≤ Text.size source.toList) :
    window source place =
      (window (String.ofList line) (place - startOfLine source place)).shift
        (startOfLine source place) := by
  have inLine := cut.column_le
  have inLineBytes : place - startOfLine source place ≤ (Text.bytes line).length := by
    rwa [Text.length_bytes]
  have inRestBytes : place - startOfLine source place ≤
      (Text.bytes line ++ Text.bytes behind).length := by
    rw [List.length_append]
    omega
  have placeIs : place = (Text.bytes before).length + (place - startOfLine source place) := by
    have notBefore : startOfLine source place ≤ place := Nat.sub_le _ _
    rw [Text.length_bytes, cut.start_eq]
    omega
  have moved (direction : Direction) :
      walk (Text.bytes source.toList) place direction = startOfLine source place +
        walk (Text.bytes line) (place - startOfLine source place) direction := by
    calc walk (Text.bytes source.toList) place direction
        = walk (Text.bytes before ++ (Text.bytes line ++ Text.bytes behind))
            ((Text.bytes before).length + (place - startOfLine source place)) direction := by
          rw [← placeIs, ← Text.bytes_append, ← Text.bytes_append, ← cut.parts]
      _ = startOfLine source place +
            walk (Text.bytes line) (place - startOfLine source place) direction := by
          rw [walk_append cut.opens inRestBytes, walk_append_right cut.ends inLineBytes,
            Text.length_bytes, cut.start_eq]
  rw [← String.toList_ofList (l := line)] at inLine
  rw [window_of_le within, window_of_le inLine, String.toList_ofList, moved, moved]
  rfl

/-- What is quoted at a place is quoted from its line. -/
theorem excerpt_eq (cut : LineCut source place before line behind)
    (within : place ≤ Text.size source.toList) :
    excerpt source place = excerpt (String.ofList line) (place - startOfLine source place) := by
  rcases exists_window_parts (String.ofList line) (place - startOfLine source place) with
    ⟨front, inner, after, lineParts, lineWindow⟩
  rw [excerpt_of_window lineParts lineWindow]
  rw [String.toList_ofList] at lineParts
  have parts : source.toList = (before ++ front) ++ (inner ++ (after ++ behind)) := by
    rw [cut.parts, lineParts]
    simp
  apply excerpt_of_window parts
  rw [cut.window_eq within, lineWindow, Window.shift, ← cut.start_eq, Text.size_append,
    Nat.add_assoc]

end LineCut

/-! ## The window of a window -/

section Cutout

variable {front inner back : List UInt8} {count : Nat}

theorem walk_left_of_cutout (within : count ≤ inner.length)
    (stopped : walk (front ++ (inner ++ back)) (front.length + count) .left = front.length) :
    walk inner count .left = 0 := by
  have met : ((front ++ (inner ++ back)).take (front.length + count)).reverse =
      (inner.take count).reverse ++ front.reverse := by
    rw [List.take_length_add_append, List.take_append_of_le_length within, List.reverse_append]
  have passed : (inner.take count).reverse.length = count := by
    rw [List.length_reverse, List.length_take_of_le within]
  have inRange := Walk.start.reach_le_length ((inner.take count).reverse ++ front.reverse)
  rw [List.length_append, passed, List.length_reverse] at inRange
  rw [walk, met] at stopped
  have reached : Walk.start.reach ((inner.take count).reverse ++ front.reverse) =
      (inner.take count).reverse.length := by
    omega
  rw [walk, Walk.reach_of_prefix rfl reached, passed, Nat.sub_self]

theorem walk_right_of_cutout (within : count ≤ inner.length)
    (stopped : walk (front ++ (inner ++ back)) (front.length + count) .right =
      front.length + inner.length) :
    walk inner count .right = inner.length := by
  have met : (front ++ (inner ++ back)).drop (front.length + count) = inner.drop count ++ back := by
    rw [List.drop_length_add_append, List.drop_append_of_le_length within]
  have passed : (inner.drop count).length = inner.length - count := List.length_drop
  rw [walk, met] at stopped
  have reached : Walk.start.reach (inner.drop count ++ back) = (inner.drop count).length := by
    omega
  rw [walk, Walk.reach_of_prefix rfl reached, passed, Nat.add_sub_cancel' within]

end Cutout

/-- Cut out of its source, a window is the whole window of its place. -/
theorem window_of_cutout {source : String} {place : Nat} {before inner after : List Char}
    (parts : source.toList = before ++ (inner ++ after)) (within : place ≤ Text.size source.toList)
    (windowIs : window source place =
      { start := Text.size before, stop := Text.size before + Text.size inner }) :
    window (String.ofList inner) (place - Text.size before) =
      { start := 0, stop := Text.size inner } := by
  have atLeast := window_start_le source place
  have atMost := le_window_stop source place
  rw [windowIs, Nat.min_eq_left within] at atLeast atMost
  rcases Nat.exists_eq_add_of_le atLeast with ⟨count, rfl⟩
  have inInner : count ≤ Text.size inner := Nat.le_of_add_le_add_left atMost
  have inWindow : count ≤ Text.size (String.ofList inner).toList := by
    rwa [String.toList_ofList]
  rw [window_of_le within, Window.mk.injEq, parts, Text.bytes_append, Text.bytes_append,
    ← Text.length_bytes before, ← Text.length_bytes inner] at windowIs
  rw [← Text.length_bytes] at inInner
  rw [Nat.add_sub_cancel_left, window_of_le inWindow, String.toList_ofList,
    walk_left_of_cutout inInner windowIs.1, walk_right_of_cutout inInner windowIs.2,
    Text.length_bytes]

/-! ## Locality -/

/-- The window of a place is settled by the line of the place, and by the window alone. -/
structure HasLocalWindow (source : String) (place : Nat) : Prop where
  /-- The window is the one in the line, moved to where the line starts. -/
  inLine : ∃ line, lineAround source place = .ok line ∧
    window source place =
      (window (String.ofList line) (place - startOfLine source place)).shift
        (startOfLine source place)
  /-- The text of the window, taken for itself, is one window. -/
  inWindow : ∃ inner,
    sliceAt source (window source place).start (window source place).stop = .ok inner ∧
      window (String.ofList inner) (place - (window source place).start) =
        { start := 0, stop := (window source place).stop - (window source place).start }
  /-- A source that has the same line around a place quotes the same there. -/
  sameLine : ∀ (other : String) (otherPlace : Nat), otherPlace ≤ Text.size other.toList →
    lineAround other otherPlace = lineAround source place →
    otherPlace - startOfLine other otherPlace = place - startOfLine source place →
    excerpt other otherPlace = excerpt source place

theorem hasLocalWindow {source : String} {place : Nat} (within : place ≤ Text.size source.toList) :
    HasLocalWindow source place := by
  rcases exists_lineCut within with ⟨before, line, behind, cut⟩
  refine ⟨⟨line, cut.lineAround_eq, cut.window_eq within⟩, ?_, ?_⟩
  · rcases exists_window_parts source place with ⟨front, inner, after, parts, windowIs⟩
    have wholeWindow := window_of_cutout parts within windowIs
    rw [windowIs]
    refine ⟨inner, sliceAt_of_parts parts, ?_⟩
    rw [wholeWindow, Nat.add_sub_cancel_left]
  · intro other otherPlace otherWithin sameLine sameColumn
    rcases exists_lineCut otherWithin with ⟨otherBefore, otherLine, otherBehind, otherCut⟩
    rw [otherCut.lineAround_eq, cut.lineAround_eq, Except.ok.injEq] at sameLine
    rw [otherCut.excerpt_eq otherWithin, cut.excerpt_eq within, sameLine, sameColumn]

/-- A place inside a two-byte character, on the middle one of three lines. -/
theorem hasLocalWindow_of_middle_line :
    9 ≤ Text.size "int a\nb é = #;\nint c".toList ∧
      HasLocalWindow "int a\nb é = #;\nint c" 9 :=
  ⟨by decide, hasLocalWindow (by decide)⟩

end Lexis
