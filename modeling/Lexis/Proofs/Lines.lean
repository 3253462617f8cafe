import Lexis.Diagnostic
import Lexis.Proofs.Readings

/-!
# Two ways to find a line

A cursor counts the lines as it passes the bytes of a source, also inside comments and text blocks.
The lookup of a line knows nothing of cursors: it takes a text line by line and measures each of
them. The two agree at every place between two characters behind which something stands. What links
them is the part of the current line that lies before the place. It grows with every character and
is empty again behind a line feed, and the cursor stands as many bytes behind the start of its line
as that part has.
-/

namespace Lexis

theorem Text.lineFeed_mem_bytes_iff {text : List Char} : lineFeed ∈ bytes text ↔ '\n' ∈ text :=
  mem_bytes_iff_of_ascii (show '\n'.toNat < 128 by decide)

namespace Cursor

theorem passing_of_notMem {passed : List UInt8} (noFeed : lineFeed ∉ passed) (cursor : Cursor) :
    cursor.passing passed = { cursor with offset := cursor.offset + passed.length } := by
  induction passed generalizing cursor with
  | nil => rfl
  | cons byte later ih =>
      simp only [List.mem_cons, not_or] at noFeed
      have notFeed : byte ≠ lineFeed := Ne.symm noFeed.1
      have stepped := ih noFeed.2 (cursor.step byte)
      simp only [passing, List.foldl_cons] at stepped ⊢
      rw [stepped]
      simp only [step, notFeed, if_false, List.length_cons, mk.injEq, and_true]
      omega

/-- A character other than a line feed leaves the cursor on its line. -/
theorem past_cons_of_ne {first : Char} (notFeed : first ≠ '\n') (later : List Char)
    (cursor : Cursor) :
    cursor.past (first :: later) =
      past { cursor with offset := cursor.offset + first.utf8Size } later := by
  have noFeedByte : lineFeed ∉ Text.bytes [first] := by
    rw [Text.lineFeed_mem_bytes_iff]
    simpa using Ne.symm notFeed
  have passed : cursor.past [first] = { cursor with offset := cursor.offset + first.utf8Size } := by
    rw [past, passing_of_notMem noFeedByte, Text.length_bytes]
    rfl
  rw [← List.singleton_append, past_append, passed]

theorem past_feed (later : List Char) (cursor : Cursor) :
    cursor.past ('\n' :: later) =
      past { offset := cursor.offset + 1, line := cursor.line + 1, lineStart := cursor.offset + 1 }
        later :=
  rfl

end Cursor

namespace Text

theorem firstLine_isPrefix_append (text more : List Char) :
    firstLine text <+: firstLine (text ++ more) := by
  rcases Decidable.em ('\n' ∈ text) with feed | noFeed
  · rcases List.eq_append_cons_of_mem feed with ⟨body, later, rfl, bodyNoFeed⟩
    have lineIs := firstLine_append_feed bodyNoFeed later
    have wholeIs := firstLine_append_feed bodyNoFeed (later ++ more)
    refine ⟨[], ?_⟩
    rw [List.append_nil, List.append_assoc, List.cons_append, lineIs, wholeIs]
  · rw [firstLine_of_notMem noFeed, firstLine_append_of_notMem noFeed]
    exact List.prefix_append text _

/-- What a text holds behind its last line feed. -/
def lastLine (text : List Char) : List Char :=
  (text.reverse.takeWhile (· != '\n')).reverse

theorem lastLine_append_of_notMem (front : List Char) {text : List Char} (noFeed : '\n' ∉ text) :
    lastLine (front ++ text) = lastLine front ++ text := by
  have noneIsFeed : ∀ char ∈ text.reverse, (char != '\n') = true := by
    intro char member
    simp only [bne_iff_ne]
    rintro rfl
    exact noFeed (List.mem_reverse.mp member)
  rw [lastLine, List.reverse_append, List.takeWhile_append_of_pos noneIsFeed, List.reverse_append,
    List.reverse_reverse, lastLine]

theorem lastLine_of_notMem {text : List Char} (noFeed : '\n' ∉ text) : lastLine text = text := by
  have whole := lastLine_append_of_notMem [] noFeed
  rwa [List.nil_append, show lastLine [] = [] from rfl, List.nil_append] at whole

theorem lastLine_append_feed (earlier later : List Char) :
    lastLine (earlier ++ '\n' :: later) = lastLine later := by
  rw [lastLine, List.reverse_append, List.reverse_cons, List.append_assoc, List.takeWhile_append]
  split
  · rename_i whole
    have same : later.reverse.takeWhile (· != '\n') = later.reverse :=
      (List.takeWhile_prefix _).eq_of_length whole
    simp [lastLine, same]
  · rfl

theorem take_one_isPrefix_firstLine (text : List Char) : text.take 1 <+: firstLine text := by
  cases text with
  | nil => exact List.nil_prefix
  | cons first later =>
      rcases Decidable.em (first = '\n') with rfl | notFeed
      · exact ⟨[], (firstLine_feed later).symm⟩
      · rw [firstLine_cons_of_ne notFeed]
        exact List.prefix_append [first] _

end Text

namespace LinePlace

/-- The place of a line is the one at a line and a column, and a piece stands there. -/
structure Shows (place : LinePlace) (line column : Nat) (piece : List Char) : Prop where
  number_eq : place.number = line
  column_eq : place.column = column
  opens : ∃ front behind, cutAt place.text column = .ok (front, behind) ∧ piece <+: behind

/-- The lookup that starts at the beginning of a line comes to the line and the column of a cursor
that stands behind the same characters. -/
theorem find?_past {front rest : List Char} (before : List Char) (nonempty : rest ≠ [])
    (noFeed : '\n' ∉ front) {cursor : Cursor}
    (placed : cursor.offset = cursor.lineStart + Text.size front) :
    Text.size (Text.lastLine (front ++ before)) = (cursor.past before).column ∧
      find? cursor.line (Text.size front + Text.size before) (front ++ (before ++ rest)) =
        some { number := (cursor.past before).line
               text := String.ofList (Text.lastLine (front ++ before) ++ Text.firstLine rest)
               column := (cursor.past before).column } := by
  induction before generalizing front cursor with
  | nil =>
      have columnIs : cursor.column = Text.size front := by
        rw [Cursor.column]
        omega
      have lineIs := Text.firstLine_append_of_notMem noFeed rest
      have positive := Text.size_pos (Text.firstLine_ne_nil nonempty)
      have within : Text.size front < Text.size (Text.firstLine (front ++ rest)) := by
        rw [lineIs, Text.size_append]
        omega
      rw [List.append_nil, Text.lastLine_of_notMem noFeed]
      refine ⟨columnIs.symm, ?_⟩
      change find? cursor.line (Text.size front) (front ++ rest) =
        some { number := cursor.line, text := _, column := cursor.column }
      rw [find?_of_lt within, lineIs, columnIs]
  | cons first later ih =>
      rcases Decidable.em (first = '\n') with rfl | notFeed
      · -- the line ends here, and the lookup goes on with the next one
        have lineIs : Text.firstLine (front ++ '\n' :: (later ++ rest)) = front ++ ['\n'] :=
          Text.firstLine_append_feed noFeed _
        have measured : Text.size (front ++ ['\n']) = Text.size front + 1 := Text.size_append _ _
        have behind : Text.size (Text.firstLine (front ++ '\n' :: (later ++ rest))) ≤
            Text.size front + Text.size ('\n' :: later) := by
          rw [lineIs, measured]
          have feedSize : Text.size ('\n' :: later) = 1 + Text.size later := rfl
          omega
        have left : Text.size front + Text.size ('\n' :: later) - Text.size (front ++ ['\n']) =
            Text.size [] + Text.size later := by
          have feedSize : Text.size ('\n' :: later) = 1 + Text.size later := rfl
          rw [measured, feedSize, Text.size_nil]
          omega
        have dropped : (front ++ '\n' :: (later ++ rest)).drop (front ++ ['\n']).length =
            [] ++ (later ++ rest) := by
          have split : front ++ '\n' :: (later ++ rest) = (front ++ ['\n']) ++ (later ++ rest) := by
            simp
          rw [split, List.drop_left, List.nil_append]
        rw [Text.lastLine_append_feed, Cursor.past_feed, List.cons_append, find?_of_le behind,
          lineIs, left, dropped]
        exact ih List.not_mem_nil rfl
      · have frontNoFeed : '\n' ∉ front ++ [first] := by
          simp [noFeed, Ne.symm notFeed]
        have moved : cursor.offset + first.utf8Size =
            cursor.lineStart + Text.size (front ++ [first]) := by
          rw [placed, Text.size_append]
          simp only [Text.size_cons, Text.size_nil]
          omega
        have found :=
          @ih _ frontNoFeed { cursor with offset := cursor.offset + first.utf8Size } moved
        rw [Cursor.past_cons_of_ne notFeed]
        simpa [Nat.add_assoc] using found

end LinePlace

/-- The lookup at a place between two texts comes to the line and the column of the cursor behind
the first text, and puts the line together from what the two texts hold of it. -/
theorem lineAt?_of_parts {content : String} {before rest : List Char}
    (parts : content.toList = before ++ rest) (nonempty : rest ≠ []) :
    Text.size (Text.lastLine before) = (Cursor.start.past before).column ∧
      lineAt? content (Text.size before) =
        some { number := (Cursor.start.past before).line
               text := String.ofList (Text.lastLine before ++ Text.firstLine rest)
               column := (Cursor.start.past before).column } := by
  have placed : Cursor.start.offset = Cursor.start.lineStart + Text.size [] := rfl
  have found := LinePlace.find?_past before nonempty List.not_mem_nil placed
  rwa [Text.size_nil, Nat.zero_add, List.nil_append, List.nil_append, ← parts] at found

/-- The line that is found at a place between two texts shows how the second one begins. -/
theorem exists_lineAt?_of_parts {content : String} {before rest piece : List Char}
    (parts : content.toList = before ++ rest) (nonempty : rest ≠ [])
    (begins : piece <+: Text.firstLine rest) :
    ∃ place, lineAt? content (Text.size before) = some place ∧
      place.Shows (Cursor.start.past before).line (Cursor.start.past before).column piece := by
  rcases lineAt?_of_parts parts nonempty with ⟨lineSize, found⟩
  refine ⟨_, found, rfl, rfl, Text.lastLine before, Text.firstLine rest, ?_, begins⟩
  exact cutAt_eq_ok_iff.mpr ⟨String.toList_ofList, lineSize⟩

/-- The line of a diagnostic is shown behind its number. -/
theorem Diagnostic.exists_shown_line {diagnostic : Diagnostic} {content : String}
    {place : LinePlace} (found : lineAt? content diagnostic.position.offset = some place) :
    ∃ shown, (diagnostic.lines content)[3]? = some (toString place.number ++ " | " ++ shown) := by
  refine ⟨String.ofList (Text.trimEnd
    (place.text.toList.drop (place.text.toList.takeWhile LinePlace.isIndent).length)), ?_⟩
  rw [lines, found]
  simp only [LinePlace.illustration, List.cons_append, List.nil_append, List.getElem?_cons_succ,
    List.getElem?_cons_zero, Option.some.injEq]
  apply String.toList_inj.mp
  simp

namespace Source

theorem allTokens_eq_error_of_significantTokens_eq_error {source : Source} {error : ScanError}
    (failed : source.significantTokens = .error error) : source.allTokens = .error error := by
  rw [significantTokens] at failed
  cases scanned : source.allTokens with
  | error other =>
      rw [scanned] at failed
      exact congrArg Except.error (Except.error.inj failed)
  | ok tokens =>
      rw [scanned] at failed
      contradiction

theorem exists_lineAt?_of_token {source : Source} {token : Token}
    (member : token ∈ source.scan.tokens) :
    ∃ place, lineAt? source.content token.start = some place ∧
      place.Shows token.line token.column (Text.firstLine token.value.toList) := by
  rcases Lexeme.exists_parts_of_mem_place member with ⟨earlier, lexeme, later, lexemesAre, rfl⟩
  have consumed := flatMap_text_lex none source.content.toList
  have reading : Reading [] (lex none source.content.toList).1 _ :=
    reading_lex [] source.content.toList
  rw [lexemesAre] at consumed reading
  have lexemeNonempty := reading.text_ne_nil lexeme (List.mem_append_right _ List.mem_cons_self)
  have parts : source.content.toList = earlier.flatMap Lexeme.text ++
      (lexeme.text ++ (later.flatMap Lexeme.text ++ (lex none source.content.toList).2)) := by
    simpa using consumed.symm
  have begins := Text.firstLine_isPrefix_append lexeme.text
    (later.flatMap Lexeme.text ++ (lex none source.content.toList).2)
  have startIs : (lexeme.token source.file (Lexeme.endOf .start earlier)).start =
      Text.size (earlier.flatMap Lexeme.text) := Lexeme.offset_endOf_start earlier
  rw [startIs]
  simp only [Lexeme.token, String.toList_ofList]
  exact exists_lineAt?_of_parts parts (by simp [lexemeNonempty]) begins

theorem exists_lineAt?_of_error {source : Source} {error : ScanError}
    (failed : source.allTokens = .error error) :
    ∃ place, lineAt? source.content error.position.offset = some place ∧
      place.Shows error.line error.column error.character.toList := by
  rcases error_eq_of_allTokens_eq_error rfl failed with ⟨nonempty, rfl⟩
  have parts := (flatMap_text_lex none source.content.toList).symm
  rcases exists_lineAt?_of_parts parts nonempty (Text.take_one_isPrefix_firstLine _) with
    ⟨place, found, shows⟩
  refine ⟨place, ?_, ?_⟩
  · rw [ScanError.before, Lexeme.offset_endOf_start]
    exact found
  · simpa [ScanError.before, Lexeme.endOf] using shows

/-- The line and the column of every token, and of the error of a scan that fails, are those that
the lookup of the line finds, and the line goes on there with the token, as far as it stands on that
line, or with the character of the error. The number that is shown with the error is that of its
line. -/
theorem lineAt?_shows (source : Source) :
    (∀ tokens, source.allTokens = .ok tokens → ∀ token ∈ tokens,
      ∃ place, lineAt? source.content token.start = some place ∧
        place.Shows token.line token.column (Text.firstLine token.value.toList)) ∧
    ∀ error, source.significantTokens = .error error →
      ∃ place, lineAt? source.content error.position.offset = some place ∧
        place.Shows error.line error.column error.character.toList ∧
        ∃ shown, (error.diagnostic.lines source.content)[3]? =
          some (toString error.line ++ " | " ++ shown) := by
  constructor
  · intro tokens complete token member
    rcases lex_left_eq_nil_of_allTokens_eq_ok complete with ⟨-, rfl⟩
    exact exists_lineAt?_of_token member
  · intro error failed
    rcases exists_lineAt?_of_error (allTokens_eq_error_of_significantTokens_eq_error failed) with
      ⟨place, found, shows⟩
    have foundHere : lineAt? source.content error.diagnostic.position.offset = some place := found
    rcases Diagnostic.exists_shown_line foundHere with ⟨shown, shownHere⟩
    rw [shows.number_eq] at shownHere
    exact ⟨place, found, shows, shown, shownHere⟩

end Source

end Lexis
