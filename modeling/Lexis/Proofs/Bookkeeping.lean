import Lexis.Proofs.Resumption
import Mathlib.Order.Bounds.Basic

/-!
# What a cursor knows

A cursor does not look back. It counts line feeds as it passes them and notes where the last one
ended, and at every place this is what the bytes before the place say: so many line feeds, and the
last one of them there. One byte keeps this true, so every stretch of bytes does, however a source
is cut into stretches, and with it every action of a session and every round of a scan.

An advance is refused just where the source has too few bytes left, and then nothing has changed.
-/

namespace Lexis

/-- A line starts at the start of a source and behind every line feed. -/
def IsLineStart (sourceBytes : List UInt8) (offset : Nat) : Prop :=
  offset = 0 ∨ ∃ before, offset = before + 1 ∧ sourceBytes[before]? = some lineFeed

namespace Cursor

/-- A cursor stands in a source, on the line that the line feeds before it make, and knows where
that line starts. -/
structure TrueTo (sourceBytes : List UInt8) (cursor : Cursor) : Prop where
  offset_le : cursor.offset ≤ sourceBytes.length
  line_eq : cursor.line = 1 + (sourceBytes.take cursor.offset).count lineFeed
  lineStart_isGreatest :
    IsGreatest {start | start ≤ cursor.offset ∧ IsLineStart sourceBytes start} cursor.lineStart

variable {sourceBytes : List UInt8} {cursor : Cursor}

theorem trueTo_start (sourceBytes : List UInt8) : start.TrueTo sourceBytes where
  offset_le := Nat.zero_le _
  line_eq := rfl
  lineStart_isGreatest := ⟨⟨Nat.le_refl 0, Or.inl rfl⟩, fun _ member => member.1⟩

/-- The column is the distance to the start of the line, which does not lie behind the cursor. -/
theorem TrueTo.lineStart_add_column (trueTo : cursor.TrueTo sourceBytes) :
    cursor.lineStart + cursor.column = cursor.offset := by
  have notBehind : cursor.lineStart ≤ cursor.offset := trueTo.lineStart_isGreatest.1.1
  rw [column]
  omega

/-- One more byte of the source keeps a cursor true. -/
theorem TrueTo.step (trueTo : cursor.TrueTo sourceBytes) {byte : UInt8}
    (next : sourceBytes[cursor.offset]? = some byte) : (cursor.step byte).TrueTo sourceBytes := by
  rcases trueTo with ⟨-, lineIs, ⟨startsLine, greatest⟩⟩
  have inside : cursor.offset < sourceBytes.length := (List.getElem?_eq_some_iff.mp next).1
  have taken : sourceBytes.take (cursor.offset + 1) = sourceBytes.take cursor.offset ++ [byte] := by
    rw [List.take_add_one, next]
    rfl
  rcases Decidable.em (byte = lineFeed) with rfl | notFeed
  · -- the next line starts here
    rw [Cursor.step, if_pos rfl]
    refine ⟨inside, ?_, ⟨Nat.le_refl _, Or.inr ⟨cursor.offset, rfl, next⟩⟩,
      fun _ member => member.1⟩
    simp only [taken, List.count_append, List.count_singleton_self, lineIs]
    omega
  · rw [Cursor.step, if_neg notFeed]
    refine ⟨inside, ?_, ⟨Nat.le_succ_of_le startsLine.1, startsLine.2⟩, ?_⟩
    · simp only [taken, List.count_append, List.count_singleton, lineIs]
      simp [notFeed]
    · rintro start ⟨within, isStart⟩
      refine greatest ⟨?_, isStart⟩
      rcases isStart with rfl | ⟨before, rfl, feed⟩
      · exact Nat.zero_le _
      · rcases Nat.lt_or_eq_of_le within with earlier | here
        · exact Nat.le_of_lt_succ earlier
        · rw [Nat.succ.inj here, next] at feed
          exact absurd (Option.some.inj feed) notFeed

/-- A stretch of the source keeps a cursor true. -/
theorem TrueTo.passing (trueTo : cursor.TrueTo sourceBytes) {passed : List UInt8}
    (ahead : passed <+: sourceBytes.drop cursor.offset) :
    (cursor.passing passed).TrueTo sourceBytes := by
  induction passed generalizing cursor with
  | nil => exact trueTo
  | cons byte later ih =>
      rcases ahead with ⟨rest, parts⟩
      have next : sourceBytes[cursor.offset]? = some byte := by
        rw [← List.head?_drop, ← parts]
        rfl
      have moved : (cursor.step byte).offset = cursor.offset + 1 := by
        rw [Cursor.step]
        split <;> rfl
      have laterAhead : later <+: sourceBytes.drop (cursor.step byte).offset := by
        rw [moved, ← List.tail_drop, ← parts]
        exact List.prefix_append later rest
      exact ih (trueTo.step next) laterAhead

theorem offset_passing_take {count : Nat} (inRange : cursor.offset + count ≤ sourceBytes.length) :
    (cursor.passing ((sourceBytes.drop cursor.offset).take count)).offset =
      cursor.offset + count := by
  rw [offset_passing, List.length_take, List.length_drop]
  omega

/-- A stretch is passed in two steps, wherever the cut between them falls. -/
theorem passing_take_add {first second : Nat}
    (inRange : cursor.offset + first ≤ sourceBytes.length) :
    let middle := cursor.passing ((sourceBytes.drop cursor.offset).take first)
    cursor.passing ((sourceBytes.drop cursor.offset).take (first + second)) =
      middle.passing ((sourceBytes.drop middle.offset).take second) := by
  intro middle
  rw [show middle.offset = cursor.offset + first from offset_passing_take inRange, List.take_add,
    List.drop_drop, passing_append]

end Cursor

namespace Breakdown

/-- A request that is followed by another one was answered. -/
theorem exists_of_bind_eq_ok {First Answer : Type} {request : Except Breakdown First}
    {next : First → Except Breakdown Answer} {answer : Answer}
    (answered : request >>= next = .ok answer) :
    ∃ first, request = .ok first ∧ next first = .ok answer := by
  cases request with
  | error breakdown => contradiction
  | ok first => exact ⟨first, rfl, answered⟩

theorem eq_ok_of_ofRequest_eq_ok {Answer : Type} {request : Except Fault Answer} {answer : Answer}
    (answered : ofRequest request = .ok answer) : request = .ok answer := by
  cases request with
  | error fault => contradiction
  | ok given => rw [Except.ok.inj answered]

end Breakdown

namespace Scanner

/-- A scanner reads a source, and its cursor is true to that source. -/
structure TrueTo (scanner : Scanner) (source : Source) : Prop where
  source_eq : scanner.source = source
  cursor_trueTo : scanner.cursor.TrueTo (Text.bytes source.content.toList)

variable {scanner next : Scanner} {source : Source}

theorem trueTo_ofSource (source : Source) : (ofSource source).TrueTo source :=
  ⟨rfl, Cursor.trueTo_start _⟩

theorem TrueTo.push (trueTo : scanner.TrueTo source) (token : Token) :
    (scanner.push token).TrueTo source :=
  ⟨trueTo.source_eq, trueTo.cursor_trueTo⟩

theorem advance_eq_ok_iff {count : Nat} :
    scanner.advance count = .ok next ↔
      scanner.cursor.offset + count ≤ (Text.bytes scanner.source.content.toList).length ∧
      next = { scanner with
        cursor := scanner.cursor.passing
          (((Text.bytes scanner.source.content.toList).drop scanner.cursor.offset).take
            count) } := by
  simp only [advance]
  split
  next inRange => simp only [inRange, true_and, Except.ok.injEq, eq_comm]
  next pastEnd => simp only [pastEnd, false_and, reduceCtorEq]

theorem TrueTo.advance (trueTo : scanner.TrueTo source) {count : Nat}
    (advanced : scanner.advance count = .ok next) : next.TrueTo source := by
  rcases trueTo with ⟨rfl, cursorTrue⟩
  rcases advance_eq_ok_iff.mp advanced with ⟨-, rfl⟩
  exact ⟨rfl, cursorTrue.passing (List.take_prefix count _)⟩

/-- A round that does not end the scan adds a token and moves ahead. -/
theorem exists_advance_of_round_eq_ongoing (goesOn : scanner.round = .ok (.ongoing next)) :
    ∃ token count, 0 < count ∧ (scanner.push token).advance count = .ok next := by
  unfold Scanner.round at goesOn
  split at goesOn
  · simp at goesOn
  · rcases Breakdown.exists_of_bind_eq_ok goesOn with ⟨lexeme, found, lexemeGoesOn⟩
    cases lexeme with
    | none =>
        rcases Breakdown.exists_of_bind_eq_ok lexemeGoesOn with ⟨error, -, ends⟩
        cases ends
    | some lexeme =>
        rcases Breakdown.exists_of_bind_eq_ok lexemeGoesOn with ⟨token, -, tokenGoesOn⟩
        rcases Breakdown.exists_of_bind_eq_ok tokenGoesOn with ⟨moved, advanced, movedIs⟩
        cases movedIs
        rcases exists_first?_of_lexemeAt (Breakdown.eq_ok_of_ofRequest_eq_ok found) with
          ⟨before, rest, piece, -, recognised, lengthIs⟩
        have positive := Text.size_pos (Lexeme.first?_starts recognised).1
        exact ⟨token, lexeme.2, lengthIs ▸ positive, Breakdown.eq_ok_of_ofRequest_eq_ok advanced⟩

/-- The rounds of a scan keep the cursor true. -/
theorem TrueTo.rounds (trueTo : scanner.TrueTo source) {count : Nat}
    (goesOn : scanner.rounds count = .ok (.ongoing next)) : next.TrueTo source := by
  induction count generalizing scanner with
  | zero =>
      cases goesOn
      exact trueTo
  | succ count ih =>
      rcases Breakdown.exists_of_bind_eq_ok goesOn with ⟨progress, step, stepGoesOn⟩
      rcases progress with middle | result
      · rcases exists_advance_of_round_eq_ongoing step with ⟨token, passed, -, advanced⟩
        exact ih ((trueTo.push token).advance advanced) stepGoesOn
      · cases stepGoesOn

/-- An advance is refused where the source has too few bytes left, and nowhere else. -/
theorem advance_eq_error_iff {count : Nat} :
    (∃ fault, scanner.advance count = .error fault) ↔
      (Text.bytes scanner.source.content.toList).length < scanner.cursor.offset + count := by
  simp only [advance]
  split
  next inRange => simpa using inRange
  next pastEnd => simpa using pastEnd

/-- Two advances one after the other are one advance over both stretches. -/
theorem advance_add_eq_ok_iff {first second : Nat} :
    scanner.advance (first + second) = .ok next ↔
      ∃ middle, scanner.advance first = .ok middle ∧ middle.advance second = .ok next := by
  simp only [advance_eq_ok_iff]
  constructor
  · rintro ⟨inRange, rfl⟩
    have firstInRange : scanner.cursor.offset + first ≤
        (Text.bytes scanner.source.content.toList).length := by omega
    refine ⟨_, ⟨firstInRange, rfl⟩, ?_, ?_⟩
    · simpa only [Cursor.offset_passing_take firstInRange, Nat.add_assoc] using inRange
    · rw [Cursor.passing_take_add firstInRange]
  · rintro ⟨middle, ⟨firstInRange, rfl⟩, secondInRange, rfl⟩
    simp only [Cursor.offset_passing_take firstInRange, Nat.add_assoc] at secondInRange
    exact ⟨secondInRange, by rw [Cursor.passing_take_add firstInRange]⟩

end Scanner

namespace Session

variable {session : Session} {source : Source}

/-- The scanner of a session and the saved ones read a source, and their cursors are true to it. -/
def TrueTo (session : Session) (source : Source) : Prop :=
  ∀ scanner ∈ session.current :: session.saved, scanner.TrueTo source

theorem trueTo_ofSource (source : Source) : (ofSource source).TrueTo source := by
  intro scanner member
  rw [List.mem_singleton.mp member]
  exact Scanner.trueTo_ofSource source

/-- An action gives every scanner of a session a cursor that is true to the source. -/
theorem TrueTo.perform (trueTo : session.TrueTo source) (action : Action) :
    (session.perform action).1.TrueTo source := by
  rcases List.forall_mem_cons.mp trueTo with ⟨currentTrue, savedTrue⟩
  cases action with
  | advance count =>
      cases advanced : session.current.advance count with
      | ok moved =>
          have movedTrue := currentTrue.advance advanced
          simpa [Session.perform, advanced, TrueTo] using ⟨movedTrue, savedTrue⟩
      | error fault => simpa [Session.perform, advanced] using trueTo
  | push token => exact List.forall_mem_cons.mpr ⟨currentTrue.push token, savedTrue⟩
  | save => exact List.forall_mem_cons.mpr ⟨currentTrue, trueTo⟩
  | restore =>
      rcases session with ⟨current, saved⟩
      cases saved with
      | nil => exact trueTo
      | cons scanner earlier => exact savedTrue
  | run =>
      cases result : session.current.run with
      | ok scanned => simpa [Session.perform, result] using trueTo
      | error fault => simpa [Session.perform, result] using trueTo

theorem TrueTo.performAll (trueTo : session.TrueTo source) (actions : List Action) :
    (session.performAll actions).1.TrueTo source := by
  induction actions generalizing session with
  | nil => exact trueTo
  | cons action later ih => exact ih (trueTo.perform action)

/-- An advance is refused where the source has too few bytes left, and leaves the session as it was.
-/
theorem perform_advance_eq_refused_iff {count : Nat} :
    (∃ fault, session.perform (.advance count) = (session, .refused fault)) ↔
      (Text.bytes session.current.source.content.toList).length <
        session.current.cursor.offset + count := by
  rw [← Scanner.advance_eq_error_iff]
  cases advanced : session.current.advance count with
  | ok moved => simp [Session.perform, advanced, standing]
  | error fault => simp [Session.perform, advanced]

/-- Whatever is done in a session, every scanner of it knows the line and the column of its place,
and so does every scanner that a scan from there goes through. The scanner moves ahead just as far
as its source goes, and in two steps as it does in one. -/
theorem bookkeeping_of_performAll (source : Source) (actions : List Action) :
    let sourceBytes := Text.bytes source.content.toList
    let session := ((ofSource source).performAll actions).1
    (∀ scanner ∈ session.current :: session.saved,
      scanner.source = source ∧ scanner.cursor.TrueTo sourceBytes ∧
        scanner.cursor.lineStart + scanner.column = scanner.cursor.offset ∧
        ∀ count next, scanner.rounds count = .ok (.ongoing next) →
          next.cursor.TrueTo sourceBytes) ∧
      (∀ count, (∃ fault, session.perform (.advance count) = (session, .refused fault)) ↔
        sourceBytes.length < session.current.cursor.offset + count) ∧
      ∀ first second next, session.current.advance (first + second) = .ok next ↔
        ∃ middle, session.current.advance first = .ok middle ∧
          middle.advance second = .ok next := by
  intro sourceBytes session
  have trueTo : session.TrueTo source := (trueTo_ofSource source).performAll actions
  refine ⟨?_, ?_, ?_⟩
  · intro scanner member
    have scannerTrue := trueTo scanner member
    refine ⟨scannerTrue.source_eq, scannerTrue.cursor_trueTo,
      scannerTrue.cursor_trueTo.lineStart_add_column, ?_⟩
    intro count next goesOn
    exact (scannerTrue.rounds goesOn).cursor_trueTo
  · intro count
    have sourceIs := (trueTo session.current List.mem_cons_self).source_eq
    rw [perform_advance_eq_refused_iff, sourceIs]
  · intro first second next
    exact Scanner.advance_add_eq_ok_iff

/-- Cuts inside a line end and inside a letter. -/
example :
    let actions : List Action := [.advance 2, .save, .advance 2, .advance 9, .restore, .advance 1]
    ((ofSource { file := "s", content := "a\r\né" }).performAll actions).1 =
      { current := ⟨{ file := "s", content := "a\r\né" }, ⟨3, 2, 3⟩, []⟩, saved := [] } := by
  decide +kernel

end Session

end Lexis
