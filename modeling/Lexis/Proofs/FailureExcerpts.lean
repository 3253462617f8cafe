import Lexis.Proofs.Extents
import Lexis.Proofs.LineEndings
import Lexis.Proofs.MissingQuotes
import Mathlib.Data.List.TakeWhile

/-!
# The character of a failure in its excerpt

Spaces, tabs and line feeds are always read, so a scan fails at some other character, and the walk
to the right passes it. It lies in the window, therefore, and the window on its line. From there to
the excerpt only blanks are lost, but these are more than the three: a carriage return or a no-break
space is no lexeme and is trimmed nevertheless. Where all of the window is of that kind, the excerpt
is empty and no tip is given.
-/

namespace Lexis

namespace Text

/-- Only blanks are trimmed, and only at the ends. -/
theorem exists_trim_parts (text : List Char) :
    ∃ front back, text = front ++ (trim text ++ back) ∧ (∀ char ∈ front, isBlank char = true) ∧
      ∀ char ∈ back, isBlank char = true := by
  have allTaken (other : List Char) : ∀ char ∈ other.takeWhile isBlank, isBlank char = true :=
    List.all_eq_true.mp List.all_takeWhile
  let opened := text.dropWhile isBlank
  have ends : opened = trim text ++ (opened.reverse.takeWhile isBlank).reverse := by
    apply List.reverse_injective
    simp [trim, trimEnd, opened]
  refine ⟨text.takeWhile isBlank, (opened.reverse.takeWhile isBlank).reverse, ?_, allTaken text, ?_⟩
  · rw [← ends]
    exact List.takeWhile_append_dropWhile.symm
  · intro char member
    exact allTaken _ char (List.mem_reverse.mp member)

theorem trim_isInfix (text : List Char) : trim text <:+: text := by
  rcases exists_trim_parts text with ⟨front, back, parts, -, -⟩
  exact ⟨front, back, by rw [List.append_assoc, ← parts]⟩

theorem mem_trim_of_visible {text : List Char} {visible : Char} (member : visible ∈ text)
    (notBlank : isBlank visible = false) : visible ∈ trim text := by
  rcases exists_trim_parts text with ⟨front, back, parts, frontBlank, backBlank⟩
  rw [parts, List.mem_append, List.mem_append] at member
  rcases member with inFront | inside | inBack
  · simp [frontBlank visible inFront] at notBlank
  · exact inside
  · simp [backBlank visible inBack] at notBlank

theorem trim_eq_nil_iff {text : List Char} :
    trim text = [] ↔ ∀ char ∈ text, isBlank char = true := by
  constructor
  · intro empty char member
    rw [← Bool.not_eq_false]
    intro notBlank
    have kept := mem_trim_of_visible member notBlank
    simp [empty] at kept
  · intro allBlank
    have opened : text.dropWhile isBlank = [] := List.dropWhile_eq_nil_iff.mpr allBlank
    rw [trim, opened]
    rfl

end Text

/-- The first byte that a walk meets cannot end a word. -/
theorem Walk.reach_start_pos {byte : UInt8} (notFeed : byte ≠ lineFeed) (later : List UInt8) :
    0 < start.reach (byte :: later) := by
  apply Walk.le_reach_start_iff.mpr
  rcases Decidable.em (byte = spaceByte) with rfl | notSpace
  · simp [Walk.endedWords, Walk.wordLimit, Ne.symm notFeed]
  · simp [Walk.endedWords, Walk.wordLimit, Ne.symm notFeed, notSpace]

namespace Text

theorem WalksBack.feed_notMem {before passed : List Char} (walks : WalksBack before passed) :
    '\n' ∉ passed := by
  rcases walks with ⟨⟨front, rfl⟩, measured⟩
  rcases Walk.le_reach_start_iff.mp (Nat.le_of_eq measured) with ⟨-, noFeed, -⟩
  have met : (bytes (front ++ passed)).reverse.take (size passed) = (bytes passed).reverse := by
    rw [bytes_append, List.reverse_append]
    apply List.take_left'
    simp
  rwa [met, List.mem_reverse, lineFeed_mem_bytes_iff] at noFeed

theorem WalksAhead.feed_notMem {rest passed : List Char} (walks : WalksAhead rest passed) :
    '\n' ∉ passed := by
  rcases walks with ⟨⟨behind, rfl⟩, measured⟩
  rcases Walk.le_reach_start_iff.mp (Nat.le_of_eq measured) with ⟨-, noFeed, -⟩
  have met : (bytes (passed ++ behind)).take (size passed) = bytes passed := by
    rw [bytes_append]
    exact List.take_left' (length_bytes passed)
  rwa [met, lineFeed_mem_bytes_iff] at noFeed

/-- A walk to the right passes at least the character in front of which it starts. -/
theorem WalksAhead.exists_cons {first : Char} {later passed : List Char} (notFeed : first ≠ '\n')
    (walks : WalksAhead (first :: later) passed) : ∃ more, passed = first :: more := by
  rcases walks with ⟨begins, measured⟩
  cases passed with
  | cons other more =>
      rcases List.cons_prefix_cons.mp begins with ⟨rfl, -⟩
      exact ⟨more, rfl⟩
  | nil =>
      exfalso
      have positive : 0 < size [first] := size_pos (List.cons_ne_nil first [])
      rw [← length_bytes] at positive
      rcases List.exists_cons_of_length_pos positive with ⟨byte, others, encoded⟩
      have noFeed : lineFeed ∉ bytes [first] := by
        rw [lineFeed_mem_bytes_iff]
        simpa using Ne.symm notFeed
      have met : bytes (first :: later) = byte :: (others ++ bytes later) := by
        rw [← List.cons_append, ← encoded, ← bytes_append]
        rfl
      rw [encoded] at noFeed
      have notFeedByte : byte ≠ lineFeed := Ne.symm (List.ne_of_not_mem_cons noFeed)
      have goesOn := Walk.reach_start_pos notFeedByte (others ++ bytes later)
      rw [← met, ← measured] at goesOn
      contradiction

end Text

/-- The window at a character other than a line feed holds the character and lies on its line. -/
theorem exists_window_of_char {content : String} {before behind : List Char} {char : Char}
    (parts : content.toList = before ++ char :: behind) (notFeed : char ≠ '\n') :
    ∃ front inner after, content.toList = front ++ (inner ++ after) ∧
      window content (Text.size before) =
        { start := Text.size front, stop := Text.size front + Text.size inner } ∧
      char ∈ inner ∧ '\n' ∉ inner ∧
      Text.lastLine before ++ Text.firstLine (char :: behind) =
        Text.lastLine front ++ (inner ++ Text.firstLine after) := by
  rcases Text.exists_walksBack before with ⟨back, walksBack⟩
  rcases Text.exists_walksAhead (char :: behind) with ⟨ahead, walksAhead⟩
  have backNoFeed := walksBack.feed_notMem
  have aheadNoFeed := walksAhead.feed_notMem
  have charMember : char ∈ ahead := by
    rcases walksAhead.exists_cons notFeed with ⟨more, rfl⟩
    exact List.mem_cons_self
  rcases walksBack.1 with ⟨front, rfl⟩
  rcases walksAhead.1 with ⟨after, behindIs⟩
  rw [← behindIs] at parts walksAhead ⊢
  refine ⟨front, back ++ ahead, after, ?_, window_of_walks parts walksBack walksAhead, ?_, ?_, ?_⟩
  · simpa using parts
  · exact List.mem_append_right back charMember
  · simp [backNoFeed, aheadNoFeed]
  · rw [Text.lastLine_append_of_notMem front backNoFeed,
      Text.firstLine_append_of_notMem aheadNoFeed]
    simp

namespace ScanError

variable {error : ScanError} {content : String} {offender : Char}

/-- A missing quote always has a tip, and any other cause has one if the excerpt is not empty. -/
theorem tip?_eq_none_iff :
    error.diagnostic.cause.tip? = none ↔
      ¬(error.character = "\"" ∨ error.character = "'") ∧ error.nearby = "" := by
  rw [diagnostic, cause]
  split
  · rename_i isQuote
    simp [Cause.tip?, isQuote]
  · rename_i notQuote
    simp [Cause.tip?, notQuote]

/-- An excerpt gives no tip where the text it is trimmed from has only blanks. -/
theorem tip?_eq_none_iff_of_member {inner : List Char}
    (characterIs : error.character = String.ofList [offender])
    (excerptIs : error.nearby = String.ofList (Text.trim inner)) (member : offender ∈ inner) :
    error.diagnostic.cause.tip? = none ↔ ∀ char ∈ inner, Text.isBlank char = true := by
  rw [tip?_eq_none_iff, ← Text.trim_eq_nil_iff, characterIs, excerptIs]
  constructor
  · rintro ⟨-, empty⟩
    simpa using empty
  · intro empty
    have blank := Text.trim_eq_nil_iff.mp empty offender member
    refine ⟨?_, by simp [empty]⟩
    intro isQuote
    rcases eq_quote_of_isQuote isQuote with rfl | rfl
    · contradiction
    · contradiction

/-- What an error says of the place of a text where it is reported. -/
structure Shows (error : ScanError) (content : String) (offender : Char) : Prop where
  /-- The error names one character. -/
  character_eq : error.character = String.ofList [offender]
  /-- The character is the one at the place of the error. -/
  stands : ∃ before behind,
    cutAt content error.position.offset = .ok (before, offender :: behind)
  /-- No error is reported at a space, a tab or a line feed. -/
  notGap : offender ∉ gapMarks
  /-- The excerpt is a part of the line of the place, without the line feed. -/
  inLine : '\n' ∉ error.nearby.toList ∧
    ∃ place, lineAt? content error.position.offset = some place ∧
      error.nearby.toList <:+: place.text.toList
  /-- A character that is no blank is left in the excerpt, and there is a tip. -/
  visible : Text.isBlank offender = false →
    offender ∈ error.nearby.toList ∧ error.diagnostic.cause.tip? ≠ none
  /-- There is no tip just where the window, the character included, holds only blanks. -/
  tipless : ∃ inner,
    sliceAt content (window content error.position.offset).start
      (window content error.position.offset).stop = .ok inner ∧
    offender ∈ inner ∧
    (error.diagnostic.cause.tip? = none ↔ ∀ char ∈ inner, Text.isBlank char = true)

theorem shows_of_parts {before behind : List Char}
    (parts : content.toList = before ++ offender :: behind)
    (placed : Text.size before = error.position.offset)
    (characterIs : error.character = String.ofList [offender])
    (excerptIs : error.nearby = excerpt content error.position.offset)
    (notGap : offender ∉ gapMarks) : error.Shows content offender := by
  have notFeed : offender ≠ '\n' := by
    rintro rfl
    contradiction
  rcases exists_window_of_char parts notFeed with
    ⟨front, inner, after, windowParts, windowIs, member, noFeed, lineIs⟩
  rw [← placed, excerpt_of_window windowParts windowIs] at excerptIs
  have nearbyIs : error.nearby.toList = Text.trim inner := by
    rw [excerptIs, String.toList_ofList]
  have trimmed : Text.trim inner <:+: inner := Text.trim_isInfix inner
  have tipIff := tip?_eq_none_iff_of_member characterIs excerptIs member
  refine ⟨characterIs, ⟨before, behind, cutAt_eq_ok_iff.mpr ⟨parts, placed⟩⟩, notGap, ?_, ?_, ?_⟩
  · rw [nearbyIs]
    refine ⟨fun feed => noFeed (trimmed.mem feed), ?_⟩
    rcases lineAt?_of_parts parts (List.cons_ne_nil offender behind) with ⟨-, found⟩
    rw [← placed]
    refine ⟨_, found, ?_⟩
    rw [String.toList_ofList, lineIs]
    exact trimmed.trans (List.infix_append' _ inner _)
  · intro notBlank
    constructor
    · rw [nearbyIs]
      exact Text.mem_trim_of_visible member notBlank
    · intro tipless
      simp [tipIff.mp tipless offender member] at notBlank
  · rw [← placed, windowIs]
    exact ⟨inner, sliceAt_of_parts windowParts, member, tipIff⟩

end ScanError

namespace Source

theorem nearby_eq_of_error {source : Source} {error : ScanError}
    (failed : source.allTokens = .error error) :
    error.nearby = excerpt source.content error.position.offset := by
  rcases error_eq_of_allTokens_eq_error rfl failed with ⟨-, rfl⟩
  rfl

/-- The error of a failed scan shows the character in front of which no kind fits. -/
theorem exists_shows_of_failure {source : Source} {error : ScanError}
    (failed : source.significantTokens = .error error) :
    ∃ offender, error.Shows source.content offender := by
  have scanFailed := allTokens_eq_error_of_significantTokens_eq_error failed
  rcases exists_parts_of_error scanFailed with
    ⟨before, offender, behind, parts, placed, characterIs, -⟩
  have stuck := first?_eq_none_of_error scanFailed parts placed (List.cons_ne_nil offender behind)
  have notGap := Lexeme.notMem_gapMarks_of_first?_eq_none stuck
  exact ⟨offender,
    ScanError.shows_of_parts parts placed characterIs (nearby_eq_of_error scanFailed) notGap⟩

/-- A no-break space, which is trimmed off what is quoted of the second line. -/
theorem exists_shows_of_no_break_space :
    let source : Source := { file := "s", content := "x = 1;\n\u00a0é #\ny" }
    let error : ScanError :=
      { position := ⟨7, "s"⟩, line := 2, column := 0, character := "\u00a0", nearby := "é #" }
    source.significantTokens = .error error ∧
      ∃ offender, error.Shows source.content offender := by
  intro source error
  have failed : source.significantTokens = .error error := by decide +kernel
  exact ⟨failed, exists_shows_of_failure failed⟩

end Source

end Lexis
