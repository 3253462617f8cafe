import Lexis.Proofs.Bookkeeping

/-!
# Where a scan breaks down

A scanner may be left anywhere in its source: inside a token, a word or a comment, and even inside a
character. Of all these places only the ones inside a character stop a scan, and they stop it at
once: the first request of its first round is refused, as `Scanner.run` is.

Everywhere else the scanner stands between two characters, and no request of any round is refused.
Each round that goes on passes at least one byte, because no kind has an empty lexeme. So after as
many rounds as there are bytes left the scan is over, or the scanner is at the end of the source.
-/

namespace Lexis

namespace Text

variable {text : List Char} {offset : Nat}

/-- An offset falls inside a character of a text. -/
def InsideCharacter (text : List Char) (offset : Nat) : Prop :=
  ∃ before char after, text = before ++ char :: after ∧
    size before < offset ∧ offset < size before + char.utf8Size

theorem IsBoundary.append_left (boundary : IsBoundary text offset) (front : List Char) :
    IsBoundary (front ++ text) (size front + offset) := by
  rcases boundary with ⟨before, after, rfl, rfl⟩
  exact ⟨front ++ before, after, (List.append_assoc _ _ _).symm, size_append _ _⟩

theorem InsideCharacter.append_left (inside : InsideCharacter text offset) (front : List Char) :
    InsideCharacter (front ++ text) (size front + offset) := by
  rcases inside with ⟨before, char, after, rfl, behindStart, beforeEnd⟩
  refine ⟨front ++ before, char, after, (List.append_assoc _ _ _).symm, ?_, ?_⟩
  · rw [size_append]
    omega
  · rw [size_append]
    omega

/-- A character has no boundary between its two ends. -/
theorem InsideCharacter.not_isBoundary (inside : InsideCharacter text offset) :
    ¬IsBoundary text offset := by
  rcases inside with ⟨before, char, after, parts, behindStart, beforeEnd⟩
  rintro ⟨front, back, cut, rfl⟩
  have begins : front <+: text := ⟨back, cut.symm⟩
  have beforeBegins : before <+: text := ⟨char :: after, parts.symm⟩
  have throughBegins : before ++ [char] <+: text := ⟨after, by simp [parts]⟩
  have longer := (size_lt_size_iff beforeBegins begins).mp behindStart
  have shorter := (size_lt_size_iff begins throughBegins).mp (by simpa using beforeEnd)
  rw [List.length_append, List.length_singleton] at shorter
  omega

theorem InsideCharacter.lt_size (inside : InsideCharacter text offset) : offset < size text := by
  rcases inside with ⟨before, char, after, rfl, -, beforeEnd⟩
  rw [size_append, size_cons]
  omega

/-- An offset of a text is on a boundary or inside a character. -/
theorem isBoundary_or_insideCharacter (within : offset ≤ size text) :
    IsBoundary text offset ∨ InsideCharacter text offset := by
  induction text generalizing offset with
  | nil => exact Or.inl ⟨[], [], rfl, (Nat.le_zero.mp within).symm⟩
  | cons first later ih =>
      have firstSize : size [first] = first.utf8Size := by simp
      rcases Nat.eq_zero_or_pos offset with rfl | positive
      · exact Or.inl ⟨[], first :: later, rfl, rfl⟩
      rcases Nat.lt_or_ge offset first.utf8Size with early | late
      · exact Or.inr ⟨[], first, later, rfl, positive, by simpa using early⟩
      · rw [size_cons] at within
        have placed : size [first] + (offset - first.utf8Size) = offset := by omega
        have laterWithin : offset - first.utf8Size ≤ size later := by omega
        rw [← placed]
        exact (ih laterWithin).imp (·.append_left [first]) (·.append_left [first])

theorem insideCharacter_iff_splitAtByte? :
    InsideCharacter text offset ↔ offset < size text ∧ splitAtByte? text offset = none := by
  constructor
  · intro inside
    refine ⟨inside.lt_size, Option.eq_none_iff_forall_ne_some.mpr ?_⟩
    rintro ⟨before, after⟩ found
    exact inside.not_isBoundary ⟨before, after, splitAtByte?_eq_some_iff.mp found⟩
  · rintro ⟨within, uncut⟩
    refine (isBoundary_or_insideCharacter (Nat.le_of_lt within)).resolve_left ?_
    rintro ⟨before, after, cut⟩
    cases uncut.symm.trans (splitAtByte?_eq_some_iff.mpr cut)

instance (text : List Char) (offset : Nat) : Decidable (InsideCharacter text offset) :=
  decidable_of_iff _ insideCharacter_iff_splitAtByte?.symm

end Text

theorem cutAt_of_insideCharacter {content : String} {offset : Nat}
    (inside : Text.InsideCharacter content.toList offset) :
    cutAt content offset = .error (.insideCharacter offset) := by
  rcases Text.insideCharacter_iff_splitAtByte?.mp inside with ⟨within, uncut⟩
  simp only [cutAt, uncut, Nat.le_of_lt within, if_true]

namespace Scanner

variable {scanner next : Scanner} {source : Source} {before rest : List Char} {count : Nat}

namespace Progress

/-- What is found where a round leaves a scan, unless there are further rounds to come. A scan at
the end of its source has none. -/
def result? : Progress → Option (Except ScanError (List Token))
  | .ongoing scanner => if scanner.atEnd then some (.ok scanner.gathered) else none
  | .over result => some result

/-- So many further rounds. -/
def resume (count : Nat) : Progress → Except Breakdown Progress
  | .ongoing scanner => scanner.rounds count
  | .over result => .ok (.over result)

end Progress

/-- The rounds of a scan can be done in two goes. -/
theorem rounds_add (scanner : Scanner) (first second : Nat) :
    scanner.rounds (first + second) = scanner.rounds first >>= Progress.resume second := by
  induction first generalizing scanner with
  | zero =>
      rw [Nat.zero_add]
      rfl
  | succ first ih =>
      rw [Nat.add_right_comm, rounds, rounds]
      cases scanner.round with
      | error breakdown => rfl
      | ok progress =>
          rcases progress with next | result
          · exact ih next
          · rfl

theorem offset_lt_of_round_eq_ongoing (goesOn : scanner.round = .ok (.ongoing next)) :
    scanner.cursor.offset < next.cursor.offset := by
  rcases exists_advance_of_round_eq_ongoing goesOn with ⟨token, passed, positive, advanced⟩
  rcases advance_eq_ok_iff.mp advanced with ⟨inRange, rfl⟩
  have moved := Cursor.offset_passing_take inRange
  exact moved.symm ▸ Nat.lt_add_of_pos_right positive

/-- Rounds that go on pass at least one byte each. -/
theorem offset_add_le_of_rounds_eq_ongoing (goesOn : scanner.rounds count = .ok (.ongoing next)) :
    scanner.cursor.offset + count ≤ next.cursor.offset := by
  induction count generalizing scanner with
  | zero =>
      cases goesOn
      exact Nat.le_refl _
  | succ count ih =>
      rcases Breakdown.exists_of_bind_eq_ok goesOn with ⟨progress, step, laterGoesOn⟩
      rcases progress with middle | result
      · have first := offset_lt_of_round_eq_ongoing step
        have later := ih laterGoesOn
        omega
      · cases laterGoesOn

/-- A scanner stands inside a character or between two of them. -/
theorem TrueTo.insideCharacter_or_between (trueTo : scanner.TrueTo source) :
    Text.InsideCharacter source.content.toList scanner.cursor.offset ∨
      ∃ before rest, scanner.Between before rest := by
  rcases trueTo with ⟨rfl, cursorTrue⟩
  have within := cursorTrue.offset_le
  rw [Text.length_bytes] at within
  rcases Text.isBoundary_or_insideCharacter within with ⟨before, rest, parts, placed⟩ | inside
  · have notBehind := cursorTrue.lineStart_isGreatest.1.1
    exact Or.inr ⟨before, rest, parts, placed.symm, notBehind⟩
  · exact Or.inl inside

theorem Between.not_insideCharacter (between : scanner.Between before rest) :
    ¬Text.InsideCharacter scanner.source.content.toList scanner.cursor.offset := by
  intro inside
  exact inside.not_isBoundary ⟨before, rest, between.parts, between.offset_eq.symm⟩

/-- The bytes left are those of the text behind the scanner. -/
theorem Between.size_sub_offset (between : scanner.Between before rest) :
    Text.size scanner.source.content.toList - scanner.cursor.offset = Text.size rest := by
  rw [between.parts, Text.size_append, between.offset_eq, Nat.add_sub_cancel_left]

theorem Between.run_eq (between : scanner.Between before rest) :
    scanner.run = .ok ((scanner.source.scanFrom scanner.cursor (Text.lastByte? before)
      rest).result.map (scanner.gathered ++ ·)) := by
  rw [run, between.cutAt_eq]
  rfl

/-- From a place between two characters as many rounds as there are bytes left bring out what the
scanner finds when it is run. -/
theorem TrueTo.rounds_of_between (trueTo : scanner.TrueTo source)
    (fits : Text.size source.content.toList < Position.offsetLimit)
    (between : scanner.Between before rest) :
    ∃ progress result, scanner.rounds (Text.size rest) = .ok progress ∧
      progress.result? = some result ∧ scanner.run = .ok result := by
  have finished := rounds_eq_over between (trueTo.source_eq ▸ fits)
    (Nat.lt_add_one (Text.size rest))
  rw [rounds_add] at finished
  rcases Breakdown.exists_of_bind_eq_ok finished with ⟨progress, reached, resumed⟩
  refine ⟨progress, _, reached, ?_, between.run_eq⟩
  rcases progress with next | result
  · -- every byte has been passed, so the round left over only finds the scanner at the end
    have passed := offset_add_le_of_rounds_eq_ongoing reached
    have left := between.size_sub_offset
    have atEnd : next.atEnd = true := by
      rw [atEnd, decide_eq_true_eq, (trueTo.rounds reached).source_eq, ← trueTo.source_eq]
      omega
    have lastRound : next.rounds 1 = .ok (.over (.ok next.gathered)) := by
      rw [Scanner.rounds, round, if_pos atEnd]
      rfl
    have same := Progress.over.inj (Except.ok.inj (lastRound.symm.trans resumed))
    rw [← same]
    exact if_pos atEnd
  · cases resumed
    rfl

/-- A scanner inside a character breaks down in its first round. -/
theorem rounds_of_insideCharacter
    (inside : Text.InsideCharacter scanner.source.content.toList scanner.cursor.offset)
    (count : Nat) :
    scanner.rounds (count + 1) =
      .error (.refused (.insideCharacter scanner.cursor.offset)) := by
  have notAtEnd : ¬Text.size scanner.source.content.toList ≤ scanner.cursor.offset :=
    Nat.not_le_of_lt inside.lt_size
  have refused : lexemeAt scanner.source.content scanner.cursor.offset =
      .error (.insideCharacter scanner.cursor.offset) := by
    simp only [lexemeAt, notAtEnd, if_false, cutAt_of_insideCharacter inside, Except.map]
  simp [rounds, round, atEnd, notAtEnd, refused, Breakdown.ofRequest, Except.mapError, bind,
    Except.bind]

theorem run_of_insideCharacter
    (inside : Text.InsideCharacter scanner.source.content.toList scanner.cursor.offset) :
    scanner.run = .error (.insideCharacter scanner.cursor.offset) := by
  rw [run, cutAt_of_insideCharacter inside]
  rfl

/-- No number of rounds breaks down from a place between two characters, because the rounds that
would follow lead to the end of the scan. -/
theorem Between.rounds_ne_error (between : scanner.Between before rest)
    (fits : Text.size scanner.source.content.toList < Position.offsetLimit) (count : Nat)
    (breakdown : Breakdown) : scanner.rounds count ≠ .error breakdown := by
  intro broken
  have enough : Text.size rest < count + (Text.size rest + 1) := by omega
  have finished := rounds_eq_over between fits enough
  rw [rounds_add, broken] at finished
  cases finished

end Scanner

/-- Wherever actions have left a scanner, its scan breaks down exactly if it stands inside a
character. There the first round does, and `Scanner.run` is refused for the same reason. From any
other place the rounds are done without a breakdown, however many there are, and as many as there
are bytes left bring out what `Scanner.run` finds. -/
theorem Session.breaksDown_iff_insideCharacter (source : Source) (actions : List Action)
    (fits : Text.size source.content.toList < Position.offsetLimit) :
    let scanner := ((ofSource source).performAll actions).1.current
    let offset := scanner.cursor.offset
    let left := Text.size source.content.toList - offset
    ((∃ count breakdown, scanner.rounds count = .error breakdown) ↔
        Text.InsideCharacter source.content.toList offset) ∧
      ((∃ fault, scanner.run = .error fault) ↔
        Text.InsideCharacter source.content.toList offset) ∧
      (Text.InsideCharacter source.content.toList offset →
        scanner.rounds 1 = .error (.refused (.insideCharacter offset)) ∧
          scanner.run = .error (.insideCharacter offset)) ∧
      (¬Text.InsideCharacter source.content.toList offset →
        ∃ progress result, scanner.rounds left = .ok progress ∧ progress.result? = some result ∧
          scanner.run = .ok result) := by
  intro scanner offset left
  have trueTo : scanner.TrueTo source :=
    (trueTo_ofSource source).performAll actions scanner List.mem_cons_self
  rcases trueTo.insideCharacter_or_between with inside | ⟨before, rest, between⟩
  · have placed := inside
    rw [← trueTo.source_eq] at placed
    have broken := Scanner.rounds_of_insideCharacter placed 0
    have refused := Scanner.run_of_insideCharacter placed
    exact ⟨iff_of_true ⟨1, _, broken⟩ inside, iff_of_true ⟨_, refused⟩ inside,
      fun _ => ⟨broken, refused⟩, fun outside => absurd inside outside⟩
  · have outside := between.not_insideCharacter
    have answered := trueTo.rounds_of_between fits between
    rw [← between.size_sub_offset, trueTo.source_eq] at answered
    rw [trueTo.source_eq] at outside
    refine ⟨iff_of_false ?_ outside, iff_of_false ?_ outside, fun inside => absurd inside outside,
      fun _ => answered⟩
    · rintro ⟨count, breakdown, broken⟩
      exact between.rounds_ne_error (trueTo.source_eq ▸ fits) count breakdown broken
    · rintro ⟨fault, refused⟩
      cases between.run_eq.symm.trans refused

/-- The second byte of a letter in a comment, and the place behind that letter. -/
theorem Session.breaksDown_iff_insideCharacter_of_comment :
    let source : Source := { file := "s", content := "/*é*/x" }
    let inLetter := ((ofSource source).performAll [.advance 3]).1.current
    let behindLetter := ((ofSource source).performAll [.advance 3, .advance 1]).1.current
    let left := Text.size source.content.toList - behindLetter.cursor.offset
    Text.size source.content.toList < Position.offsetLimit ∧
      (∃ count breakdown, inLetter.rounds count = .error breakdown) ∧
      (∃ fault, inLetter.run = .error fault) ∧
      left = 3 ∧ ∃ progress result, behindLetter.rounds left = .ok progress ∧
        progress.result? = some result ∧ behindLetter.run = .ok result := by
  have fits : Text.size "/*é*/x".toList < Position.offsetLimit := by decide +kernel
  have inLetter := breaksDown_iff_insideCharacter ⟨"s", "/*é*/x"⟩ [.advance 3] fits
  have behindLetter :=
    breaksDown_iff_insideCharacter ⟨"s", "/*é*/x"⟩ [.advance 3, .advance 1] fits
  exact ⟨fits, inLetter.1.mpr (by decide +kernel), inLetter.2.1.mpr (by decide +kernel),
    by decide +kernel, behindLetter.2.2.2 (by decide +kernel)⟩

end Lexis
