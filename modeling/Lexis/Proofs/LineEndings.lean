import Lexis.Proofs.Bookkeeping
import Lexis.Proofs.CarriageReturns
import Lexis.Proofs.Failures
import Lexis.Proofs.Limits
import Lexis.Proofs.Shifts

/-!
# Places in texts with other line ends

When every line feed of a text gets a carriage return in front of it, each place moves by the line
feeds before it, and the start of its line moves with it. So lines and columns stay, and offsets
grow by the number of line feeds passed.

What an error quotes stays as well. A walk goes no further than the line it starts on, and there the
two texts differ only by a carriage return at the end of the line. A walk takes it for a part of a
word, and either stops before it or goes on over it; in the second case it is the last character of
the window, and is trimmed off.
-/

namespace Lexis

open Text

namespace Text

theorem count_lineFeed_bytes (text : List Char) :
    (bytes text).count lineFeed = text.count '\n' := by
  have counted : (Cursor.start.past text).line =
      1 + ((bytes text).take (Cursor.start.past text).offset).count lineFeed :=
    ((Cursor.trueTo_start (bytes text)).passing (List.prefix_refl _)).line_eq
  have taken : (bytes text).take (Cursor.start.past text).offset = bytes text :=
    List.take_of_length_le (by simp [Cursor.start])
  rw [taken, Cursor.line_past] at counted
  exact (Nat.add_left_cancel counted).symm

end Text

namespace Cursor

/-- A cursor that moves over a text with carriage returns comes to the same line and column, and is
as many bytes ahead as there are line feeds in the text. -/
theorem past_withReturns (text : List Char) (cursor : Cursor) (bytes : Nat) :
    (cursor.shift bytes 0).past (withReturns text) =
      (cursor.past text).shift (bytes + text.count '\n') 0 := by
  induction text generalizing cursor bytes with
  | nil => rfl
  | cons first later ih =>
      rcases Decidable.em (first = '\n') with rfl | notFeed
      · have moved : (cursor.shift bytes 0).past (withReturns ('\n' :: later)) =
            (shift (bytes + 1) 0 ⟨cursor.offset + 1, cursor.line + 1, cursor.offset + 1⟩).past
              (withReturns later) := by
          have behindFeed : cursor.offset + bytes + 1 + 1 = cursor.offset + 1 + (bytes + 1) := by
            omega
          rw [withReturns_feed, past_cons_of_ne (by decide), past_feed]
          exact congrArg (fun offset => past ⟨offset, cursor.line + 1, offset⟩ _) behindFeed
        rw [moved, ih, past_feed, List.count_cons_self]
        congr 1
        omega
      · have moved : { cursor.shift bytes 0 with
            offset := (cursor.shift bytes 0).offset + first.utf8Size } =
            shift bytes 0 { cursor with offset := cursor.offset + first.utf8Size } := by
          simp only [shift, mk.injEq, and_true]
          omega
        rw [withReturns_cons_of_ne notFeed, past_cons_of_ne notFeed, past_cons_of_ne notFeed,
          List.count_cons_of_ne notFeed, moved, ih]

end Cursor

namespace Text

theorem size_withReturns (text : List Char) :
    size (withReturns text) = size text + text.count '\n' := by
  have moved := congrArg Cursor.offset (Cursor.past_withReturns text .start 0)
  simpa [Cursor.shift, Cursor.start] using moved

end Text

/-! ## Windows -/

namespace Walk

/-- More bytes behind those ahead matter only to a walk that passes all of these. -/
theorem reach_append (walk : Walk) (ahead more : List UInt8) :
    walk.reach (ahead ++ more) = walk.reach ahead ∨
      walk.reach ahead = ahead.length ∧ ahead.length < walk.reach (ahead ++ more) := by
  induction ahead generalizing walk with
  | nil =>
      rcases Nat.eq_zero_or_pos (walk.reach more) with stays | goesOn
      · exact Or.inl stays
      · exact Or.inr ⟨rfl, goesOn⟩
  | cons byte later ih =>
      simp only [List.cons_append, reach, List.length_cons]
      split
      · exact Or.inl rfl
      · rcases ih (walk.step byte) with same | ⟨all, goesOn⟩
        · exact Or.inl (congrArg (· + 1) same)
        · exact Or.inr ⟨congrArg (· + 1) all, Nat.succ_lt_succ goesOn⟩

end Walk

namespace Text

/-- What a walk to the left passes from the end of a text. -/
def WalksBack (before passed : List Char) : Prop :=
  passed <:+ before ∧ size passed = Walk.start.reach (bytes before).reverse

/-- What a walk to the right passes from the start of a text. -/
def WalksAhead (rest passed : List Char) : Prop :=
  passed <+: rest ∧ size passed = Walk.start.reach (bytes rest)

theorem exists_walksBack (before : List Char) : ∃ passed, WalksBack before passed := by
  rcases Walk.exists_stopper (rfl : Walk.start.stops = false) (bytes before).reverse with
    ⟨passedBytes, left, walked, measured, stopper⟩
  have parts : bytes before = left.reverse ++ passedBytes.reverse := by
    rw [← List.reverse_append, ← walked, List.reverse_reverse]
  rcases isBoundary_behind_stopper parts (by simpa using stopper) with
    ⟨front, passed, rfl, frontSize⟩
  refine ⟨passed, List.suffix_append front passed, ?_⟩
  have total := congrArg List.length parts
  simp only [length_bytes, List.length_append, List.length_reverse, size_append] at total frontSize
  omega

theorem exists_walksAhead (rest : List Char) : ∃ passed, WalksAhead rest passed := by
  rcases Walk.exists_stopper (rfl : Walk.start.stops = false) (bytes rest) with
    ⟨passedBytes, left, walked, measured, stopper⟩
  rcases isBoundary_of_stopper walked stopper with ⟨passed, after, rfl, passedSize⟩
  exact ⟨passed, List.prefix_append passed after, by omega⟩

/-- A walk to the left ends where its line starts. -/
theorem WalksBack.append {front before passed : List Char} (walks : WalksBack before passed)
    (whole : EndsLine front) : WalksBack (front ++ before) passed := by
  refine ⟨walks.1.trans (List.suffix_append front before), ?_⟩
  have stops : ∀ byte ∈ (bytes front).reverse.head?, byte = lineFeed := by
    simpa using lineFeed_of_endsLine whole
  rw [bytes_append, List.reverse_append, Walk.reach_append_of_head? stops, walks.2]

/-- A walk to the right ends in front of a line feed. -/
theorem WalksAhead.append {rest passed : List Char} (walks : WalksAhead rest passed)
    {behind : List Char} (feed : ∀ first ∈ behind.head?, first = '\n') :
    WalksAhead (rest ++ behind) passed := by
  refine ⟨walks.1.trans (List.prefix_append rest behind), ?_⟩
  have stops : ∀ byte ∈ (bytes behind).head?, byte = lineFeed := by
    cases behind with
    | nil => simp
    | cons first later =>
        rcases feed first rfl with rfl
        intro byte member
        exact (Option.some.inj member).symm
  rw [bytes_append, Walk.reach_append_of_head? stops, walks.2]

/-- A walk to the right passes the same in front of a carriage return, or everything and the
carriage return as well. -/
theorem WalksAhead.append_return {rest passed : List Char} (walks : WalksAhead rest passed) :
    WalksAhead (rest ++ ['\r']) passed ∨
      passed = rest ∧ WalksAhead (rest ++ ['\r']) (rest ++ ['\r']) := by
  rcases walks with ⟨begins, measured⟩
  rcases Walk.start.reach_append (bytes rest) (bytes ['\r']) with same | ⟨all, goesOn⟩
  · exact Or.inl ⟨begins.trans (List.prefix_append rest _), by rw [bytes_append, same, measured]⟩
  · have reached := Walk.start.reach_le_length (bytes rest ++ bytes ['\r'])
    rw [List.length_append, length_bytes, length_bytes] at reached
    have returnSize : size ['\r'] = 1 := rfl
    rw [length_bytes] at all goesOn
    have allPassed : passed = rest :=
      begins.eq_of_length_le ((size_le_size_iff (List.prefix_refl rest) begins).mp (by omega))
    refine Or.inr ⟨allPassed, List.prefix_refl _, ?_⟩
    rw [bytes_append, size_append]
    omega

theorem trim_append_return (text : List Char) : trim (text ++ ['\r']) = trim text := by
  have blank : isBlank '\r' = true := by decide
  rw [trim, trim, List.dropWhile_append]
  cases left : text.dropWhile isBlank with
  | nil => simp [blank]
  | cons first later => simp [trimEnd, blank]

end Text

/-- The window at a place between two texts is what the two walks pass. -/
theorem window_of_walks {content : String} {front back ahead behind : List Char}
    (parts : content.toList = (front ++ back) ++ (ahead ++ behind))
    (walksBack : WalksBack (front ++ back) back) (walksAhead : WalksAhead (ahead ++ behind) ahead) :
    window content (size (front ++ back)) =
      { start := size front, stop := size front + size (back ++ ahead) } := by
  have sourceBytes : bytes content.toList = bytes (front ++ back) ++ bytes (ahead ++ behind) := by
    rw [parts, bytes_append]
  have place : min (size (front ++ back)) (size content.toList) = size (front ++ back) := by
    rw [parts, size_append (front ++ back)]
    omega
  have startsAt : walk (bytes content.toList) (size (front ++ back)) .left = size front := by
    rw [walk, sourceBytes, List.take_left' (length_bytes _), ← walksBack.2, size_append]
    exact Nat.add_sub_cancel _ _
  have stopsAt : walk (bytes content.toList) (size (front ++ back)) .right =
      size front + size (back ++ ahead) := by
    rw [walk, sourceBytes, List.drop_left' (length_bytes _), ← walksAhead.2, size_append,
      size_append, Nat.add_assoc]
  simp only [window, length_bytes, place, startsAt, stopsAt]

/-- The excerpt at a place between two texts is what the two walks pass, without the blanks at its
ends.
-/
theorem excerpt_of_walks {content : String} {before rest back ahead : List Char}
    (parts : content.toList = before ++ rest) (walksBack : WalksBack before back)
    (walksAhead : WalksAhead rest ahead) :
    excerpt content (size before) = String.ofList (trim (back ++ ahead)) := by
  rcases walksBack.1 with ⟨front, rfl⟩
  rcases walksAhead.1 with ⟨behind, rfl⟩
  apply excerpt_of_window ?_ (window_of_walks parts walksBack walksAhead)
  · exact behind
  · simpa using parts

theorem exists_walksBack_withReturns (before : List Char) :
    ∃ passed, WalksBack before passed ∧ WalksBack (withReturns before) passed := by
  have parts : ∃ lines line, before = lines ++ line ∧ EndsLine lines ∧ '\n' ∉ line := by
    rcases Decidable.em ('\n' ∈ before) with feed | noFeed
    · rcases List.eq_append_cons_of_mem (List.mem_reverse.mpr feed) with
        ⟨line, lines, reversed, noFeed⟩
      refine ⟨lines.reverse ++ ['\n'], line.reverse, ?_, by simp [EndsLine], by simpa using noFeed⟩
      rw [← List.reverse_reverse before, reversed]
      simp
    · exact ⟨[], before, rfl, by simp [EndsLine], noFeed⟩
  rcases parts with ⟨lines, line, rfl, whole, noFeed⟩
  rcases exists_walksBack line with ⟨passed, walks⟩
  refine ⟨passed, walks.append whole, ?_⟩
  have movedWhole : EndsLine (withReturns lines) := by
    rw [EndsLine, getLast?_withReturns]
    exact whole
  rw [withReturns_append, withReturns_of_notMem noFeed]
  exact walks.append movedWhole

theorem exists_walksAhead_withReturns (rest : List Char) :
    ∃ passed movedPassed, WalksAhead rest passed ∧ WalksAhead (withReturns rest) movedPassed ∧
      (movedPassed = passed ∨ movedPassed = passed ++ ['\r']) := by
  rcases Decidable.em ('\n' ∈ rest) with feed | noFeed
  · rcases List.eq_append_cons_of_mem feed with ⟨line, behind, rfl, lineNoFeed⟩
    rcases exists_walksAhead line with ⟨passed, walks⟩
    have movedParts : withReturns (line ++ '\n' :: behind) =
        (line ++ ['\r']) ++ '\n' :: withReturns behind := by
      simp [withReturns_of_notMem lineNoFeed]
    have atFeed (later : List Char) : ∀ first ∈ ('\n' :: later).head?, first = '\n' := by
      simp
    rw [movedParts]
    rcases walks.append_return with movedWalks | ⟨rfl, movedWalks⟩
    · exact ⟨passed, passed, walks.append (atFeed _), movedWalks.append (atFeed _), Or.inl rfl⟩
    · exact ⟨passed, _, walks.append (atFeed _), movedWalks.append (atFeed _), Or.inr rfl⟩
  · rcases exists_walksAhead rest with ⟨passed, walks⟩
    refine ⟨passed, passed, walks, ?_, Or.inl rfl⟩
    rwa [withReturns_of_notMem noFeed]

/-- What is quoted at a place does not depend on how the lines end. -/
theorem excerpt_withReturns {content : String} {before rest : List Char}
    (parts : content.toList = before ++ rest) :
    excerpt (String.ofList (withReturns content.toList)) (size (withReturns before)) =
      excerpt content (size before) := by
  have movedParts : (String.ofList (withReturns content.toList)).toList =
      withReturns before ++ withReturns rest := by
    rw [String.toList_ofList, parts, withReturns_append]
  rcases exists_walksBack_withReturns before with ⟨back, walksBack, movedBack⟩
  rcases exists_walksAhead_withReturns rest with ⟨ahead, movedAhead, walksAhead, walksMoved, same⟩
  rw [excerpt_of_walks parts walksBack walksAhead, excerpt_of_walks movedParts movedBack walksMoved]
  rcases same with rfl | rfl
  · rfl
  · rw [← List.append_assoc, trim_append_return]

/-! ## Tokens and errors -/

/-- The number of line feeds of a text before an offset. -/
def lineFeedsBefore (content : String) (offset : Nat) : Nat :=
  ((bytes content.toList).take offset).count lineFeed

theorem lineFeedsBefore_of_parts {content : String} {before rest : List Char}
    (parts : content.toList = before ++ rest) :
    lineFeedsBefore content (size before) = before.count '\n' := by
  rw [lineFeedsBefore, parts, bytes_append, List.take_left' (length_bytes before),
    count_lineFeed_bytes]

/-- The source with a carriage return in front of every line feed. -/
def Source.withReturns (source : Source) : Source where
  file := source.file
  content := String.ofList (Text.withReturns source.content.toList)

/-- The position of a text, moved by the carriage returns that are put in before it. -/
def Position.withReturns (content : String) (position : Position) : Position where
  offset := position.offset + lineFeedsBefore content position.offset
  file := position.file

/-- The token of a text, with the carriage returns that are put into it and before it. -/
def Token.withReturns (content : String) (token : Token) : Token where
  kind := token.kind
  value := String.ofList (Text.withReturns token.value.toList)
  span :=
    { start := token.span.start.withReturns content, stop := token.span.stop.withReturns content }
  line := token.line
  column := token.column

/-- The error of a text, moved by the carriage returns that are put in before it. -/
def ScanError.withReturns (content : String) (error : ScanError) : ScanError where
  position := error.position.withReturns content
  line := error.line
  column := error.column
  character := error.character
  nearby := error.nearby

theorem Cursor.past_start_withReturns (text : List Char) :
    start.past (withReturns text) = (start.past text).shift (text.count '\n') 0 := by
  have moved := past_withReturns text start 0
  rwa [Nat.zero_add] at moved

namespace Lexeme

theorem token_withReturns {content : String} {before rest : List Char} {lexeme : Lexeme}
    (parts : content.toList = before ++ (lexeme.text ++ rest)) (file : String) :
    lexeme.withReturns.token file (Cursor.start.past (Text.withReturns before)) =
      (lexeme.token file (Cursor.start.past before)).withReturns content := by
  have atStart := lineFeedsBefore_of_parts parts
  have stopParts : content.toList = (before ++ lexeme.text) ++ rest := by
    rw [List.append_assoc, parts]
  have atStop := lineFeedsBefore_of_parts stopParts
  rw [size_append, List.count_append] at atStop
  have placed : (Cursor.start.past before).offset = size before := by
    rw [Cursor.offset_past]
    exact Nat.zero_add _
  have stopMoved : size before + before.count '\n' +
      (size lexeme.text + lexeme.text.count '\n') =
      size before + size lexeme.text + (before.count '\n' + lexeme.text.count '\n') := by
    omega
  rw [Cursor.past_start_withReturns, token, token, Token.withReturns, Cursor.column_shift]
  simp only [Position.withReturns, Cursor.offset_shift, Cursor.line_shift, placed, atStart, atStop,
    withReturns, size_withReturns, String.toList_ofList, stopMoved, Nat.add_zero]

theorem place_withReturns {content : String} {before rest : List Char} {lexemes : List Lexeme}
    (parts : content.toList = before ++ (lexemes.flatMap Lexeme.text ++ rest)) (file : String) :
    place file (Cursor.start.past (Text.withReturns before)) (lexemes.map withReturns) =
      (place file (Cursor.start.past before) lexemes).map (Token.withReturns content) := by
  induction lexemes generalizing before with
  | nil => rfl
  | cons lexeme later ih =>
      rw [List.flatMap_cons, List.append_assoc] at parts
      have laterParts : content.toList =
          (before ++ lexeme.text) ++ (later.flatMap Lexeme.text ++ rest) := by
        rw [List.append_assoc, parts]
      have placed := ih laterParts
      rw [withReturns_append, Cursor.past_append, Cursor.past_append] at placed
      rw [List.map_cons, place, place, List.map_cons, token_withReturns parts, ← placed]
      rfl

end Lexeme

theorem head?_ne_feed_of_first?_eq_none {previous : Option UInt8} {text : List Char}
    (stuck : Lexeme.first? previous text = none) : text.head? ≠ some '\n' := by
  intro feed
  rcases List.head?_eq_some_iff.mp feed with ⟨later, rfl⟩
  have notGap := Lexeme.notMem_gapMarks_of_first?_eq_none stuck
  simp [gapMarks] at notGap

theorem ScanError.before_withReturns {content : String} {before left : List Char}
    (parts : content.toList = before ++ left) (notFeed : left.head? ≠ some '\n') (file : String) :
    let place := Cursor.start.past before
    let movedPlace := Cursor.start.past (Text.withReturns before)
    ScanError.before (String.ofList (Text.withReturns content.toList)) (Text.withReturns left)
        { offset := movedPlace.offset, file := file } movedPlace.line movedPlace.column =
      (ScanError.before content left { offset := place.offset, file := file } place.line
        place.column).withReturns content := by
  intro place movedPlace
  have placed : place.offset = size before := by
    rw [Cursor.offset_past]
    exact Nat.zero_add _
  have moved : movedPlace = place.shift (before.count '\n') 0 :=
    Cursor.past_start_withReturns before
  have sameCharacter : (Text.withReturns left).take 1 = left.take 1 := by
    cases left with
    | nil => rfl
    | cons first later =>
        have firstNotFeed : first ≠ '\n' := by simpa using notFeed
        rw [withReturns_cons_of_ne firstNotFeed]
        rfl
  have quoted := excerpt_withReturns parts
  rw [size_withReturns] at quoted
  simp only [ScanError.before, withReturns, Position.withReturns, moved, Cursor.offset_shift,
    Cursor.line_shift, Cursor.column_shift, placed, lineFeedsBefore_of_parts parts, sameCharacter,
    quoted, Nat.add_zero]

namespace Source

/-- A source without carriage returns is scanned in the same way when its lines end with them. -/
theorem scan_withReturns (source : Source) (noReturn : '\r' ∉ source.content.toList) :
    source.withReturns.scan =
      { tokens := source.scan.tokens.map (Token.withReturns source.content)
        failure? := source.scan.failure?.map (ScanError.withReturns source.content) } := by
  rcases lexed : lex none source.content.toList with ⟨lexemes, left⟩
  have movedLexed : lex none source.withReturns.content.toList =
      (lexemes.map Lexeme.withReturns, Text.withReturns left) := by
    rw [withReturns, String.toList_ofList, lex_withReturns none _ noReturn, lexed]
  have parts : source.content.toList = lexemes.flatMap Lexeme.text ++ left := by
    have consumed := flatMap_text_lex none source.content.toList
    rw [lexed] at consumed
    exact consumed.symm
  have fromStart : source.content.toList = [] ++ (lexemes.flatMap Lexeme.text ++ left) := parts
  have placed := Lexeme.place_withReturns fromStart source.file
  have stopMoved : Lexeme.endOf .start (lexemes.map Lexeme.withReturns) =
      Cursor.start.past (Text.withReturns (lexemes.flatMap Lexeme.text)) := by
    rw [Lexeme.endOf, Lexeme.flatMap_text_withReturns]
  rw [scan, scan, scanFrom_of_lex_eq lexed, scanFrom_of_lex_eq movedLexed]
  rw [Scan.mk.injEq]
  refine ⟨placed, ?_⟩
  rcases Decidable.em (left = []) with rfl | nonempty
  · rfl
  · have stuck : Lexeme.first? (lastByte? (lexemes.flatMap Lexeme.text)) left = none := by
      have final := first?_lex_left [] source.content.toList
      rwa [show lastByte? [] = none from rfl, lexed] at final
    have movedNonempty : Text.withReturns left ≠ [] := mt withReturns_eq_nil_iff.mp nonempty
    have located := ScanError.before_withReturns parts (head?_ne_feed_of_first?_eq_none stuck)
      source.file
    rw [if_neg nonempty, if_neg movedNonempty, stopMoved]
    exact congrArg some located

theorem allTokens_withReturns (source : Source) (noReturn : '\r' ∉ source.content.toList) :
    ((∃ tokens, source.allTokens = .ok tokens) ↔
      ∃ tokens, source.withReturns.allTokens = .ok tokens) ∧
      (∀ tokens, source.allTokens = .ok tokens →
        source.withReturns.allTokens = .ok (tokens.map (Token.withReturns source.content))) ∧
      ∀ error, source.allTokens = .error error →
        source.withReturns.allTokens = .error (error.withReturns source.content) := by
  rw [allTokens, allTokens, scan_withReturns source noReturn]
  rcases source.scan with ⟨tokens, failure⟩
  cases failure with
  | none => simp [Scan.result]
  | some error => simp [Scan.result]

/-- How the lines of a source end makes no difference to a scan, as far as positions reach. A source
without carriage returns is read to its end if it is with a carriage return in front of every line
feed, and the other way round if it still fits with them. Its tokens and the error at which it fails
stay on their lines and columns, and their offsets grow by the line feeds before them. -/
theorem checkedTokens_withReturns (source : Source) (noReturn : '\r' ∉ source.content.toList) :
    ((∃ tokens, source.checkedTokens = .ok (.ok tokens)) ∧
        Text.size source.withReturns.content.toList < Position.offsetLimit ↔
      ∃ tokens, source.withReturns.checkedTokens = .ok (.ok tokens)) ∧
      (∀ tokens, source.checkedTokens = .ok (.ok tokens) →
        AnswersUpTo source.withReturns.checkedTokens (Text.size source.withReturns.content.toList)
          (.ok (tokens.map (Token.withReturns source.content)))) ∧
      ∀ error, source.checkedTokens = .ok (.error error) →
        AnswersUpTo source.withReturns.checkedTokens
          (error.position.withReturns source.content).offset
          (.error (error.withReturns source.content)) := by
  rcases allTokens_withReturns source noReturn with ⟨sameEnd, ofComplete, ofFailed⟩
  have answersOf : ∀ tokens, source.checkedTokens = .ok (.ok tokens) →
      AnswersUpTo source.withReturns.checkedTokens (Text.size source.withReturns.content.toList)
        (.ok (tokens.map (Token.withReturns source.content))) :=
    fun tokens complete =>
      checkedTokens_of_complete (ofComplete tokens (allTokens_of_checkedTokens complete))
  refine ⟨?_, answersOf, ?_⟩
  · constructor
    · rintro ⟨⟨tokens, complete⟩, fits⟩
      exact ⟨_, (answersOf tokens complete).eq_ok fits⟩
    · rintro ⟨tokens, complete⟩
      have fits := (checkedTokens_of_complete (allTokens_of_checkedTokens complete)).lt_of_eq_ok
        complete
      have longer : Text.size source.content.toList ≤
          Text.size source.withReturns.content.toList := by
        rw [withReturns, String.toList_ofList, size_withReturns]
        exact Nat.le_add_right _ _
      rcases sameEnd.mpr ⟨tokens, allTokens_of_checkedTokens complete⟩ with ⟨given, givenComplete⟩
      exact ⟨⟨given, (checkedTokens_of_complete givenComplete).eq_ok
        (Nat.lt_of_le_of_lt longer fits)⟩, fits⟩
  · intro error failed
    exact checkedTokens_of_failed (ofFailed error (allTokens_of_checkedTokens failed))

/-- A comment over two lines, an escaped line end in a text block, and an error that quotes the end
of its line. -/
theorem checkedTokens_withReturns_of_escaped_line_end :
    let source : Source := { file := "s", content := "/*é\n*/\"\"\"\\\n\"\"\" a\n# b\n" }
    '\r' ∉ source.content.toList ∧
      source.checkedTokens = .ok (.error ⟨⟨18, "s"⟩, 4, 0, "#", "# b"⟩) ∧
      source.withReturns.checkedTokens = .ok (.error ⟨⟨21, "s"⟩, 4, 0, "#", "# b"⟩) := by
  intro source
  have noReturn : '\r' ∉ source.content.toList := by decide +kernel
  have failed : source.checkedTokens = .ok (.error ⟨⟨18, "s"⟩, 4, 0, "#", "# b"⟩) := by
    decide +kernel
  have movedFailed := ((checkedTokens_withReturns source noReturn).2.2 _ failed).eq_ok
    (by decide +kernel)
  have moved : ScanError.withReturns source.content ⟨⟨18, "s"⟩, 4, 0, "#", "# b"⟩ =
      ⟨⟨21, "s"⟩, 4, 0, "#", "# b"⟩ := by decide +kernel
  rw [moved] at movedFailed
  exact ⟨noReturn, failed, movedFailed⟩

end Source

end Lexis
