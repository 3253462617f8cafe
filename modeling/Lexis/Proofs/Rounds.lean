import Lexis.Proofs.Excerpts
import Lexis.Rounds

/-!
# Scanning round by round

`Source.scan` finds all lexemes of a source at once and puts them in their places afterwards. The
loop of rounds works the other way: one lexeme a round, on the offsets of a scanner, and with every
request checked when it is made. A round breaks down if a cut of the source falls inside a character
or past its end, if an offset does not fit into the 32 bits of a position, or if the line of the
cursor starts behind the cursor.

The main statement, `rounds_eq_checked`, says that to a scanner that stands between two characters
of its source only the second of these can happen: after at most one round for each byte that is
left the scan is over, with the result that `Source.scanFrom` defines, or it has broken down at the
first offset of that scan which is too large. In a source whose size fits into a position there is
no such offset.
-/

namespace Lexis

namespace Scanner

/-- A scanner stands between two texts that make up its source: it can be scanned from there. -/
structure Between (scanner : Scanner) (before rest : List Char) : Prop where
  parts : scanner.source.content.toList = before ++ rest
  offset_eq : scanner.cursor.offset = Text.size before
  lineStart_le : scanner.cursor.lineStart ≤ scanner.cursor.offset

/-- A scanner that has passed a lexeme and added its token. -/
def taking (scanner : Scanner) (lexeme : Lexeme) : Scanner :=
  { scanner with
    cursor := scanner.cursor.past lexeme.text
    gathered := scanner.gathered ++ [lexeme.token scanner.source.file scanner.cursor] }

end Scanner

theorem Cursor.lineStart_le_passing {cursor : Cursor} (placed : cursor.lineStart ≤ cursor.offset)
    (passed : List UInt8) : (cursor.passing passed).lineStart ≤ (cursor.passing passed).offset := by
  induction passed generalizing cursor with
  | nil => simpa using placed
  | cons byte later ih =>
      have stepped : (cursor.step byte).lineStart ≤ (cursor.step byte).offset := by
        unfold step
        split
        · exact Nat.le_refl _
        · simp only
          omega
      exact ih stepped

namespace Source

theorem scanFrom_nil (source : Source) (cursor : Cursor) (previous : Option UInt8) :
    source.scanFrom cursor previous [] = { tokens := [], failure? := none } := by
  simp [scanFrom, lex_of_first?_eq_none (Lexeme.first?_nil previous), Lexeme.place]

theorem scanFrom_of_first?_eq_none {previous : Option UInt8} {rest : List Char}
    (stuck : Lexeme.first? previous rest = none) (nonempty : rest ≠ []) (source : Source)
    (cursor : Cursor) :
    source.scanFrom cursor previous rest =
      { tokens := []
        failure? := some (ScanError.before source.content rest
          { offset := cursor.offset, file := source.file } cursor.line cursor.column) } := by
  simp [scanFrom, lex_of_first?_eq_none stuck, nonempty, Lexeme.place, Lexeme.endOf, Cursor.past]

theorem scanFrom_of_first?_eq_some {previous : Option UInt8} {rest : List Char} {lexeme : Lexeme}
    (found : Lexeme.first? previous rest = some lexeme) (source : Source) (cursor : Cursor) :
    source.scanFrom cursor previous rest =
      { tokens := lexeme.token source.file cursor ::
          (source.scanFrom (cursor.past lexeme.text) lexeme.lastByte?
            (rest.drop lexeme.text.length)).tokens
        failure? := (source.scanFrom (cursor.past lexeme.text) lexeme.lastByte?
            (rest.drop lexeme.text.length)).failure? } := by
  simp [scanFrom, lex_of_first?_eq_some found, Lexeme.place, Lexeme.endOf, Cursor.past_append]

/-- The offsets of a scan do not go beyond the place where its lexemes end. -/
theorem le_of_mem_offsets_scanFrom (source : Source) {cursor : Cursor} {previous : Option UInt8}
    {rest : List Char} {offset : Nat}
    (member : offset ∈ (source.scanFrom cursor previous rest).offsets) :
    offset ≤ (Lexeme.endOf cursor (lex previous rest).1).offset := by
  induction previous, rest using lex.induct generalizing cursor with
  | case1 previous rest stuck =>
      have endIs : (Lexeme.endOf cursor (lex previous rest).1).offset = cursor.offset := by
        simp [lex_of_first?_eq_none stuck, Lexeme.endOf]
      rw [endIs]
      rcases Decidable.em (rest = []) with rfl | nonempty
      · rw [scanFrom_nil] at member
        contradiction
      · rw [scanFrom_of_first?_eq_none stuck nonempty] at member
        exact Nat.le_of_eq (List.mem_singleton.mp member)
  | case2 previous rest lexeme found later left equal ih =>
      have endIs : (Lexeme.endOf cursor (lex previous rest).1).offset =
          (Lexeme.endOf (cursor.past lexeme.text)
            (lex lexeme.lastByte? (rest.drop lexeme.text.length)).1).offset := by
        simp [lex_of_first?_eq_some found, Lexeme.endOf, Cursor.past_append]
      have inFront : (cursor.past lexeme.text).offset ≤
          (Lexeme.endOf cursor (lex previous rest).1).offset := by
        rw [endIs, Lexeme.endOf, Cursor.offset_past (cursor.past lexeme.text)]
        exact Nat.le_add_right _ _
      rw [Cursor.offset_past] at inFront
      rw [scanFrom_of_first?_eq_some found] at member
      rcases List.mem_cons.mp member with rfl | member
      · exact Nat.le_trans (Nat.le_add_right _ _) inFront
      rcases List.mem_cons.mp member with rfl | member
      · exact inFront
      · rw [endIs]
        exact ih member

end Source

namespace Scan

variable {scan : Scan}

/-- A scan with one more token in front has that token in front of its result. -/
theorem result_cons (token : Token) (scan : Scan) :
    result { tokens := token :: scan.tokens, failure? := scan.failure? } =
      scan.result.map (token :: ·) := by
  rcases scan with ⟨tokens, failure⟩
  cases failure <;> rfl

theorem checked_of_offsets_lt (fits : ∀ offset ∈ scan.offsets, offset < Position.offsetLimit) :
    scan.checked = .ok scan.result := by
  have noneTooLarge : (scan.offsets.find? fun offset => Position.offsetLimit ≤ offset) = none := by
    rw [List.find?_eq_none]
    intro offset member
    simpa using fits offset member
  rw [checked, noneTooLarge]

theorem checked_failure (error : ScanError) :
    checked { tokens := [], failure? := some error } =
      if Position.offsetLimit ≤ error.position.offset then
        .error (.offsetTooLarge error.position.offset)
      else .ok (.error error) := by
  have offsetsAre :
      offsets { tokens := [], failure? := some error } = [error.position.offset] := rfl
  rw [checked, offsetsAre, List.find?_cons]
  by_cases tooLarge : Position.offsetLimit ≤ error.position.offset
  · simp [tooLarge]
  · simp [tooLarge, result]

/-- The positions of a scan are made one by one, those of its first token first. -/
theorem checked_cons (token : Token) (scan : Scan) :
    checked { tokens := token :: scan.tokens, failure? := scan.failure? } =
      if Position.offsetLimit ≤ token.start then .error (.offsetTooLarge token.start)
      else if Position.offsetLimit ≤ token.stop then .error (.offsetTooLarge token.stop)
      else scan.checked.map fun result => result.map (token :: ·) := by
  have offsetsAre : offsets { tokens := token :: scan.tokens, failure? := scan.failure? } =
      token.start :: token.stop :: scan.offsets := rfl
  rw [checked, checked, offsetsAre, List.find?_cons, List.find?_cons]
  by_cases startTooLarge : Position.offsetLimit ≤ token.start
  · simp [startTooLarge]
  by_cases stopTooLarge : Position.offsetLimit ≤ token.stop
  · simp [startTooLarge, stopTooLarge]
  · simp only [startTooLarge, stopTooLarge, decide_false, if_false]
    cases scan.offsets.find? fun offset => Position.offsetLimit ≤ offset with
    | none => simp [Except.map, result_cons]
    | some offset => rfl

end Scan

namespace Scanner

section Between

variable {scanner : Scanner} {before rest : List Char}

theorem Between.checkedColumn_eq (between : scanner.Between before rest) :
    scanner.checkedColumn = .ok scanner.column :=
  if_pos between.lineStart_le

theorem Between.atEnd_iff (between : scanner.Between before rest) :
    scanner.atEnd = true ↔ rest = [] := by
  rw [atEnd, decide_eq_true_eq, between.parts, between.offset_eq, Text.size_append,
    ← Text.size_eq_zero_iff]
  omega

theorem Between.cutAt_eq (between : scanner.Between before rest) :
    cutAt scanner.source.content scanner.cursor.offset = .ok (before, rest) :=
  cutAt_eq_ok_iff.mpr ⟨between.parts, between.offset_eq.symm⟩

theorem Between.lexemeAt_eq (between : scanner.Between before rest) (nonempty : rest ≠ []) :
    lexemeAt scanner.source.content scanner.cursor.offset =
      .ok ((Lexeme.first? (Text.lastByte? before) rest).map fun lexeme =>
        (lexeme.kind, Text.size lexeme.text)) := by
  rw [between.offset_eq]
  exact lexemeAt_of_parts between.parts nonempty

theorem Between.errorHere_eq (between : scanner.Between before rest) :
    let error := ScanError.before scanner.source.content rest
      { offset := scanner.cursor.offset, file := scanner.source.file } scanner.cursor.line
      scanner.cursor.column
    scanner.errorHere =
      if Position.offsetLimit ≤ error.position.offset then
        .error (.offsetTooLarge error.position.offset)
      else .ok error := by
  intro error
  have offsetIs : error.position.offset = scanner.cursor.offset := rfl
  rcases excerpt_eq_trim_slice scanner.source.content scanner.cursor.offset with
    ⟨inner, sliced, excerptIs⟩
  rw [offsetIs]
  rcases Nat.lt_or_ge scanner.cursor.offset Position.offsetLimit with fits | tooLarge
  · simp [errorHere, Position.ofOffset_of_lt fits, between.checkedColumn_eq, between.cutAt_eq,
      sliced, error, ScanError.before, excerptIs, column, Nat.not_le_of_lt fits, bind, Except.bind,
      pure, Except.pure]
  · simp [errorHere, Position.ofOffset_of_le tooLarge, tooLarge, bind, Except.bind]

theorem Between.tokenHere_eq (between : scanner.Between before rest) {lexeme : Lexeme}
    (starts : Starts lexeme.text rest) :
    let token := lexeme.token scanner.source.file scanner.cursor
    scanner.tokenHere lexeme.kind (Text.size lexeme.text) =
      if Position.offsetLimit ≤ token.start then .error (.offsetTooLarge token.start)
      else if Position.offsetLimit ≤ token.stop then .error (.offsetTooLarge token.stop)
      else .ok token := by
  intro token
  rcases starts.2 with ⟨after, restParts⟩
  have parts : scanner.source.content.toList = before ++ (lexeme.text ++ after) := by
    rw [restParts]
    exact between.parts
  have sliced := sliceAt_of_parts parts
  rw [← between.offset_eq] at sliced
  have startIs : token.start = scanner.cursor.offset := rfl
  have stopIs : token.stop = scanner.cursor.offset + Text.size lexeme.text := rfl
  rw [startIs, stopIs]
  rcases Nat.lt_or_ge scanner.cursor.offset Position.offsetLimit with startFits | tooLarge
  · rcases Nat.lt_or_ge (scanner.cursor.offset + Text.size lexeme.text) Position.offsetLimit with
      stopFits | tooLarge
    · simp [tokenHere, sliced, Position.ofOffset_of_lt startFits, Position.ofOffset_of_lt stopFits,
        Nat.not_le_of_lt startFits, Nat.not_le_of_lt stopFits, between.checkedColumn_eq, token,
        Lexeme.token, column, bind, Except.bind, pure, Except.pure]
    · simp [tokenHere, sliced, Position.ofOffset_of_lt startFits, Position.ofOffset_of_le tooLarge,
        Nat.not_le_of_lt startFits, tooLarge, bind, Except.bind]
  · simp [tokenHere, sliced, Position.ofOffset_of_le tooLarge, tooLarge, bind, Except.bind]

theorem Between.eq_token_of_tokenHere_eq_ok (between : scanner.Between before rest)
    {lexeme : Lexeme} (starts : Starts lexeme.text rest) {token : Token}
    (made : scanner.tokenHere lexeme.kind (Text.size lexeme.text) = .ok token) :
    token = lexeme.token scanner.source.file scanner.cursor := by
  rw [between.tokenHere_eq starts] at made
  split at made
  · contradiction
  split at made
  · contradiction
  · exact (Except.ok.inj made).symm

theorem Between.advance_push_eq (between : scanner.Between before rest) {lexeme : Lexeme}
    (starts : Starts lexeme.text rest) :
    (scanner.push (lexeme.token scanner.source.file scanner.cursor)).advance
      (Text.size lexeme.text) = .ok (scanner.taking lexeme) := by
  rcases starts.2 with ⟨after, restParts⟩
  have parts : scanner.source.content.toList = before ++ (lexeme.text ++ after) := by
    rw [restParts]
    exact between.parts
  have sourceBytes : Text.bytes scanner.source.content.toList =
      Text.bytes before ++ (Text.bytes lexeme.text ++ Text.bytes after) := by
    rw [parts, Text.bytes_append, Text.bytes_append]
  have dropped : (Text.bytes scanner.source.content.toList).drop (Text.size before) =
      Text.bytes lexeme.text ++ Text.bytes after := by
    rw [sourceBytes]
    exact List.drop_left' (Text.length_bytes before)
  have taken : (Text.bytes lexeme.text ++ Text.bytes after).take (Text.size lexeme.text) =
      Text.bytes lexeme.text :=
    List.take_left' (Text.length_bytes lexeme.text)
  have inRange : Text.size before + Text.size lexeme.text ≤
      (Text.bytes scanner.source.content.toList).length := by
    rw [sourceBytes]
    simp
  simp only [advance, push, between.offset_eq, dropped, taken, inRange, if_true, taking,
    Cursor.past]

theorem Between.taking (between : scanner.Between before rest) {lexeme : Lexeme}
    (starts : Starts lexeme.text rest) :
    (scanner.taking lexeme).Between (before ++ lexeme.text)
      (rest.drop lexeme.text.length) where
  parts := by
    rw [List.append_assoc, starts.append_drop]
    exact between.parts
  offset_eq := by
    simp [Scanner.taking, between.offset_eq]
  lineStart_le := Cursor.lineStart_le_passing between.lineStart_le _

/-! ## One round -/

theorem Between.round_of_nil (between : scanner.Between before []) :
    scanner.round = .ok (.over (.ok scanner.gathered)) :=
  if_pos (between.atEnd_iff.mpr rfl)

theorem Between.round_of_first?_eq_none (between : scanner.Between before rest)
    (nonempty : rest ≠ []) (stuck : Lexeme.first? (Text.lastByte? before) rest = none) :
    scanner.round = scanner.errorHere.map fun error => .over (.error error) := by
  have notAtEnd : ¬scanner.atEnd = true := mt between.atEnd_iff.mp nonempty
  simp only [round, notAtEnd, between.lexemeAt_eq nonempty, stuck, Option.map_none,
    Breakdown.ofRequest_ok, bind, Except.bind]
  cases scanner.errorHere <;> rfl

theorem Between.round_of_first?_eq_some (between : scanner.Between before rest)
    {lexeme : Lexeme} (found : Lexeme.first? (Text.lastByte? before) rest = some lexeme) :
    scanner.round = (scanner.tokenHere lexeme.kind (Text.size lexeme.text)).map fun _ =>
      .ongoing (scanner.taking lexeme) := by
  have starts := Lexeme.first?_starts found
  have nonempty : rest ≠ [] := by
    intro empty
    rw [empty, Lexeme.first?_nil] at found
    contradiction
  have notAtEnd : ¬scanner.atEnd = true := mt between.atEnd_iff.mp nonempty
  simp only [round, notAtEnd, between.lexemeAt_eq nonempty, found, Option.map_some,
    Breakdown.ofRequest_ok, bind, Except.bind]
  cases made : scanner.tokenHere lexeme.kind (Text.size lexeme.text) with
  | error breakdown => rfl
  | ok token =>
      rw [between.eq_token_of_tokenHere_eq_ok starts made]
      simp only [between.advance_push_eq starts, Breakdown.ofRequest_ok]
      rfl

/-! ## The checked scan, round by round -/

theorem Between.checkedRun_eq (between : scanner.Between before rest) :
    scanner.checkedRun =
      (scanner.source.scanFrom scanner.cursor (Text.lastByte? before) rest).checked.map
        fun result => result.map (scanner.gathered ++ ·) := by
  simp only [checkedRun, between.cutAt_eq, Breakdown.ofRequest_ok, bind, Except.bind]
  cases (scanner.source.scanFrom scanner.cursor (Text.lastByte? before) rest).checked <;> rfl

theorem Between.checkedRun_of_nil (between : scanner.Between before []) :
    scanner.checkedRun = .ok (.ok scanner.gathered) := by
  rw [between.checkedRun_eq, Source.scanFrom_nil,
    Scan.checked_of_offsets_lt (by simp [Scan.offsets])]
  simp [Scan.result, Except.map]

theorem Between.checkedRun_of_first?_eq_none (between : scanner.Between before rest)
    (nonempty : rest ≠ []) (stuck : Lexeme.first? (Text.lastByte? before) rest = none) :
    scanner.checkedRun = scanner.errorHere.map .error := by
  rw [between.checkedRun_eq, Source.scanFrom_of_first?_eq_none stuck nonempty, Scan.checked_failure,
    between.errorHere_eq]
  generalize ScanError.before scanner.source.content rest _ _ _ = error
  by_cases tooLarge : Position.offsetLimit ≤ error.position.offset
  · rw [if_pos tooLarge, if_pos tooLarge]
    rfl
  · rw [if_neg tooLarge, if_neg tooLarge]
    rfl

theorem Between.checkedRun_of_first?_eq_some (between : scanner.Between before rest)
    {lexeme : Lexeme} (found : Lexeme.first? (Text.lastByte? before) rest = some lexeme) :
    scanner.checkedRun = scanner.tokenHere lexeme.kind (Text.size lexeme.text) >>= fun _ =>
      (scanner.taking lexeme).checkedRun := by
  have starts := Lexeme.first?_starts found
  rw [between.checkedRun_eq, (between.taking starts).checkedRun_eq, between.tokenHere_eq starts,
    Source.scanFrom_of_first?_eq_some found, Scan.checked_cons, Text.lastByte?_append starts.1]
  simp only [Scanner.taking, Lexeme.lastByte?]
  generalize lexeme.token scanner.source.file scanner.cursor = token
  by_cases startTooLarge : Position.offsetLimit ≤ token.start
  · rw [if_pos startTooLarge, if_pos startTooLarge]
    rfl
  by_cases stopTooLarge : Position.offsetLimit ≤ token.stop
  · rw [if_neg startTooLarge, if_neg startTooLarge, if_pos stopTooLarge, if_pos stopTooLarge]
    rfl
  · rw [if_neg startTooLarge, if_neg startTooLarge, if_neg stopTooLarge, if_neg stopTooLarge]
    cases (scanner.source.scanFrom (scanner.cursor.past lexeme.text) (Text.lastByte? lexeme.text)
      (rest.drop lexeme.text.length)).checked with
    | error breakdown => rfl
    | ok result => cases result <;> simp [Except.map, bind, Except.bind]

end Between

/-- From a place between two characters, more rounds than bytes are left bring the checked scan to
its end, or to the breakdown at the first offset that is too large. -/
theorem rounds_eq_checked {scanner : Scanner} {before rest : List Char}
    (between : scanner.Between before rest) {count : Nat} (enough : Text.size rest < count) :
    scanner.rounds count = scanner.checkedRun.map .over := by
  induction count generalizing scanner before rest with
  | zero => contradiction
  | succ count ih =>
      rcases Decidable.em (rest = []) with rfl | nonempty
      · rw [rounds, between.round_of_nil, between.checkedRun_of_nil]
        rfl
      cases first : Lexeme.first? (Text.lastByte? before) rest with
      | none =>
          rw [rounds, between.round_of_first?_eq_none nonempty first,
            between.checkedRun_of_first?_eq_none nonempty first]
          cases scanner.errorHere <;> rfl
      | some lexeme =>
          have starts := Lexeme.first?_starts first
          have shrinks : Text.size (rest.drop lexeme.text.length) < count := by
            have positive := Text.size_pos starts.1
            have measured := congrArg Text.size starts.append_drop
            rw [Text.size_append] at measured
            omega
          rw [rounds, between.round_of_first?_eq_some first,
            between.checkedRun_of_first?_eq_some first]
          cases scanner.tokenHere lexeme.kind (Text.size lexeme.text) with
          | error breakdown => rfl
          | ok token => exact ih (between.taking starts) shrinks

/-- In a source whose size fits into a position, all offsets of a scan do. -/
theorem Between.checked_scanFrom_eq {scanner : Scanner} {before rest : List Char}
    (between : scanner.Between before rest)
    (fits : Text.size scanner.source.content.toList < Position.offsetLimit) :
    (scanner.source.scanFrom scanner.cursor (Text.lastByte? before) rest).checked =
      .ok (scanner.source.scanFrom scanner.cursor (Text.lastByte? before) rest).result := by
  apply Scan.checked_of_offsets_lt
  intro offset member
  have inFront := Source.le_of_mem_offsets_scanFrom scanner.source member
  have consumed := congrArg Text.size (flatten_lex (Text.lastByte? before) rest)
  rw [Text.size_append, ← List.flatMap_def] at consumed
  rw [Lexeme.endOf, Cursor.offset_past, between.offset_eq] at inFront
  rw [between.parts, Text.size_append] at fits
  omega

/-- In a source whose size fits into a position, none of the rounds breaks down. -/
theorem rounds_eq_over {scanner : Scanner} {before rest : List Char}
    (between : scanner.Between before rest)
    (fits : Text.size scanner.source.content.toList < Position.offsetLimit) {count : Nat}
    (enough : Text.size rest < count) :
    scanner.rounds count =
      .ok (.over ((scanner.source.scanFrom scanner.cursor (Text.lastByte? before) rest).result.map
        (scanner.gathered ++ ·))) := by
  rw [rounds_eq_checked between enough, between.checkedRun_eq, between.checked_scanFrom_eq fits]
  rfl

theorem between_ofSource (source : Source) :
    (ofSource source).Between [] source.content.toList :=
  ⟨rfl, rfl, Nat.le_refl 0⟩

end Scanner

namespace Source

/-- The rounds of a scan come to the result of the checked scan, or to its breakdown. -/
theorem rounds_eq_checkedTokens (source : Source) :
    (Scanner.ofSource source).rounds (Text.size source.content.toList + 1) =
      source.checkedTokens.map .over := by
  have between := Scanner.between_ofSource source
  rw [Scanner.rounds_eq_checked between (Nat.lt_succ_self _), between.checkedRun_eq]
  change (source.checkedTokens.map fun result => result.map ([] ++ ·)).map _ = _
  cases source.checkedTokens with
  | error breakdown => rfl
  | ok result => cases result <;> rfl

theorem checkedTokens_of_lt {source : Source}
    (fits : Text.size source.content.toList < Position.offsetLimit) :
    source.checkedTokens = .ok source.allTokens :=
  (Scanner.between_ofSource source).checked_scanFrom_eq fits

end Source

end Lexis
