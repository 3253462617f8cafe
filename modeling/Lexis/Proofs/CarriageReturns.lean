import Lexis.Proofs.Gaps

/-!
# Carriage returns in front of line feeds

Some texts end their lines with a carriage return and a line feed where others have the line feed
alone. Reading makes no difference between the two: the lexemes of a text without carriage returns
stay the same when every line feed gets one in front of it, but for those that they then hold
themselves.

Most kinds have no place for either character, so their lexemes end in front of a line end of either
form, and a line end of either form stops a word. Only comments, line ends and quoted literals are
left. Those look for a mark that holds no line end, and a backslash that took a line feed along
takes the carriage return along instead and leaves a line feed that needs no backslash.
-/

namespace Lexis

namespace Text

/-- The text with a carriage return in front of every line feed. -/
def withReturns (text : List Char) : List Char :=
  text.flatMap fun char => if char = '\n' then ['\r', '\n'] else [char]

/-- A text without line ends of either form. -/
def IsInline (text : List Char) : Prop :=
  '\n' ∉ text ∧ '\r' ∉ text

section WithReturns

variable {text piece tail later : List Char} {first : Char}

@[simp]
theorem withReturns_nil : withReturns [] = [] := rfl

@[simp]
theorem withReturns_append (front back : List Char) :
    withReturns (front ++ back) = withReturns front ++ withReturns back :=
  List.flatMap_append

@[simp]
theorem withReturns_feed (later : List Char) :
    withReturns ('\n' :: later) = '\r' :: '\n' :: withReturns later := rfl

theorem withReturns_cons_of_ne (notFeed : first ≠ '\n') (later : List Char) :
    withReturns (first :: later) = first :: withReturns later := by
  simp [withReturns, notFeed]

theorem withReturns_escape (notFeed : first ≠ '\n') (later : List Char) :
    withReturns ('\\' :: first :: later) = '\\' :: first :: withReturns later := by
  rw [withReturns_cons_of_ne (by decide), withReturns_cons_of_ne notFeed]

theorem withReturns_of_notMem (noFeed : '\n' ∉ text) : withReturns text = text := by
  induction text with
  | nil => rfl
  | cons first later ih =>
      simp only [List.mem_cons, not_or] at noFeed
      rw [withReturns_cons_of_ne (Ne.symm noFeed.1), ih noFeed.2]

theorem withReturns_eq_nil_iff : withReturns text = [] ↔ text = [] := by
  cases text with
  | nil => simp
  | cons first later =>
      rcases Decidable.em (first = '\n') with rfl | notFeed
      · simp
      · simp [withReturns_cons_of_ne notFeed]

theorem getLast?_withReturns (text : List Char) : (withReturns text).getLast? = text.getLast? := by
  rcases List.eq_nil_or_concat text with rfl | ⟨body, last, rfl⟩
  · rfl
  · rcases Decidable.em (last = '\n') with rfl | notFeed
    · simp
    · simp [withReturns_cons_of_ne notFeed]

theorem lastByte?_withReturns (text : List Char) :
    lastByte? (withReturns text) = lastByte? text := by
  rw [lastByte?, lastByte?, getLast?_withReturns]

/-- A class that does not tell a carriage return from a line feed accepts the first characters
alike. -/
theorem any_head?_withReturns {inClass : Char → Bool} (same : inClass '\r' = inClass '\n')
    (text : List Char) : (withReturns text).head?.any inClass = text.head?.any inClass := by
  cases text with
  | nil => rfl
  | cons first later =>
      rcases Decidable.em (first = '\n') with rfl | notFeed
      · simp [same]
      · simp [withReturns_cons_of_ne notFeed]

/-- A piece without line ends stands at the start of the one text where it stands at the start of
the other. -/
theorem withReturns_eq_append_iff (inline : IsInline piece) :
    withReturns text = piece ++ tail ↔ ∃ rest, text = piece ++ rest ∧ withReturns rest = tail := by
  constructor
  · intro parts
    induction piece generalizing text with
    | nil => exact ⟨text, rfl, parts⟩
    | cons head others ih =>
        simp only [IsInline, List.mem_cons, not_or] at inline
        rcases inline with ⟨⟨notFeed, othersNoFeed⟩, notReturn, othersNoReturn⟩
        cases text with
        | nil => contradiction
        | cons first later =>
            rcases Decidable.em (first = '\n') with rfl | firstNotFeed
            · exact absurd (List.cons.inj parts).1 notReturn
            · rw [withReturns_cons_of_ne firstNotFeed] at parts
              rcases List.cons.inj parts with ⟨rfl, laterParts⟩
              rcases ih ⟨othersNoFeed, othersNoReturn⟩ laterParts with ⟨rest, rfl, restIs⟩
              exact ⟨rest, rfl, restIs⟩
  · rintro ⟨rest, rfl, rfl⟩
    rw [withReturns_append, withReturns_of_notMem inline.1]

theorem isPrefix_withReturns_iff (inline : IsInline piece) :
    piece <+: withReturns text ↔ piece <+: text := by
  constructor
  · rintro ⟨tail, parts⟩
    rcases (withReturns_eq_append_iff inline).mp parts.symm with ⟨rest, rfl, -⟩
    exact List.prefix_append piece rest
  · rintro ⟨rest, rfl⟩
    exact ⟨withReturns rest, ((withReturns_eq_append_iff inline).mpr ⟨rest, rfl, rfl⟩).symm⟩

/-- A carriage return that was not there before stands in front of a line feed. -/
theorem exists_feed_of_withReturns_eq (noReturn : '\r' ∉ text) {front behind : List Char}
    (parts : withReturns text = front ++ '\r' :: behind) : ∃ rest, behind = '\n' :: rest := by
  induction text generalizing front with
  | nil => simp at parts
  | cons first later ih =>
      simp only [List.mem_cons, not_or] at noReturn
      rcases Decidable.em (first = '\n') with rfl | notFeed
      · cases front with
        | nil => exact ⟨withReturns later, (List.cons.inj parts).2.symm⟩
        | cons head others =>
            cases others with
            | nil => simp at parts
            | cons second others =>
                exact ih noReturn.2 (List.cons.inj (List.cons.inj parts).2).2
      · rw [withReturns_cons_of_ne notFeed] at parts
        cases front with
        | nil => exact absurd (List.cons.inj parts).1.symm noReturn.1
        | cons head others => exact ih noReturn.2 (List.cons.inj parts).2

theorem firstLine_withReturns (text : List Char) :
    firstLine (withReturns text) = withReturns (firstLine text) := by
  induction text with
  | nil => rfl
  | cons first later ih =>
      rcases Decidable.em (first = '\n') with rfl | notFeed
      · rw [withReturns_feed, firstLine_cons_of_ne (by decide), firstLine_feed, firstLine_feed]
        rfl
      · rw [withReturns_cons_of_ne notFeed, firstLine_cons_of_ne notFeed,
          firstLine_cons_of_ne notFeed, withReturns_cons_of_ne notFeed, ih]

end WithReturns

end Text

open Text

/-! ## Kinds without line ends -/

namespace Kind

variable {kind : Kind} {text piece : List Char}

/-- Kinds that have no place for a line end of either form in their lexemes. -/
def isInline (kind : Kind) : Bool :=
  kind.pattern.avoids '\n' && kind.pattern.avoids '\r'

theorem isInline_of_matches (inlineKind : kind.isInline = true)
    (inLanguage : kind.pattern.Matches piece) : IsInline piece := by
  rw [isInline, Bool.and_eq_true] at inlineKind
  exact ⟨Pattern.notMem_of_avoids inlineKind.1 inLanguage,
    Pattern.notMem_of_avoids inlineKind.2 inLanguage⟩

theorem fits_withReturns_iff (inlineKind : kind.isInline = true) :
    kind.Fits (withReturns text) piece ↔ kind.Fits text piece := by
  have sameEdge (inline : IsInline piece) (begins : piece <+: text) :
      AtWordEdge piece ((withReturns text).drop piece.length) ↔
        AtWordEdge piece (text.drop piece.length) := by
    rcases begins with ⟨rest, rfl⟩
    rw [withReturns_append, withReturns_of_notMem inline.1, List.drop_left, List.drop_left,
      AtWordEdge, AtWordEdge, any_head?_withReturns rfl]
  constructor
  · rintro ⟨⟨nonempty, begins⟩, inLanguage, edge⟩
    have inline := isInline_of_matches inlineKind inLanguage
    have textBegins := (isPrefix_withReturns_iff inline).mp begins
    exact ⟨⟨nonempty, textBegins⟩, inLanguage, fun bounded =>
      (sameEdge inline textBegins).mp (edge bounded)⟩
  · rintro ⟨⟨nonempty, begins⟩, inLanguage, edge⟩
    have inline := isInline_of_matches inlineKind inLanguage
    exact ⟨⟨nonempty, (isPrefix_withReturns_iff inline).mpr begins⟩, inLanguage, fun bounded =>
      (sameEdge inline begins).mpr (edge bounded)⟩

/-- Which piece fits, and which of those is taken, is the same with line ends of either form. -/
theorem lexeme?_withReturns_of_isInline (inlineKind : kind.isInline = true) (text : List Char) :
    kind.lexeme? (withReturns text) = (kind.lexeme? text).map withReturns := by
  have sameFound : kind.lexeme? (withReturns text) = kind.lexeme? text := by
    ext piece
    rw [← takes_iff_lexeme?, ← takes_iff_lexeme?]
    simp only [Takes, fits_withReturns_iff inlineKind]
  rw [sameFound]
  cases found : kind.lexeme? text with
  | none => rfl
  | some piece =>
      have inline := isInline_of_matches inlineKind (fits_of_lexeme? found).2.1
      rw [Option.map_some, withReturns_of_notMem inline.1]

end Kind

/-! ## Comments, line ends and quoted literals -/

/-- A recogniser that waits for an opening mark and then looks for the end of what it opens finds
the same end with line ends of either form, if what looks for the end does. -/
theorem lexeme_withReturns_of_opening (find ending : List Char → Option (List Char))
    {opening : List Char} (inline : IsInline opening)
    (opened : ∀ later, find (opening ++ later) = (ending later).map (opening ++ ·))
    (unopened : ∀ text, ¬opening <+: text → find text = none)
    (sameEnding : ∀ later, ending (withReturns later) = (ending later).map withReturns)
    (text : List Char) : find (withReturns text) = (find text).map withReturns := by
  rcases Decidable.em (opening <+: text) with ⟨later, rfl⟩ | notOpened
  · rw [withReturns_append, withReturns_of_notMem inline.1, opened, opened, sameEnding,
      Option.map_map, Option.map_map]
    congr 1
    funext body
    simp [withReturns_of_notMem inline.1]
  · rw [unopened text notOpened, unopened _ (mt (isPrefix_withReturns_iff inline).mp notOpened)]
    rfl

namespace Trivia

theorem throughCommentEnd?_withReturns (text : List Char) :
    throughCommentEnd? (withReturns text) = (throughCommentEnd? text).map withReturns := by
  fun_induction throughCommentEnd? text with
  | case1 later => rfl
  | case2 first later notClosing ih =>
      rcases Decidable.em (first = '\n') with rfl | notFeed
      · simp [throughCommentEnd?, ih, Function.comp_def]
      · have stillOpen : ∀ rest, first = '*' → withReturns later = '/' :: rest → False := by
          intro rest isStar parts
          have slash : IsInline ['/'] := ⟨by decide, by decide⟩
          rcases (withReturns_eq_append_iff slash).mp parts with ⟨behind, laterIs, -⟩
          exact notClosing behind isStar laterIs
        rw [withReturns_cons_of_ne notFeed, throughCommentEnd?]
        · simp only [ih, Option.map_map, Function.comp_def, withReturns_cons_of_ne notFeed]
        · exact stillOpen
  | case3 => rfl

theorem blockComment?_withReturns (text : List Char) :
    blockComment? (withReturns text) = (blockComment? text).map withReturns := by
  have inline : IsInline ['/', '*'] := ⟨by decide, by decide⟩
  refine lexeme_withReturns_of_opening blockComment? throughCommentEnd? inline (fun _ => rfl) ?_
    throughCommentEnd?_withReturns text
  intro text notOpened
  unfold blockComment?
  split
  next later => exact absurd (List.prefix_append ['/', '*'] later) notOpened
  · rfl

theorem lineComment?_withReturns (text : List Char) :
    lineComment? (withReturns text) = (lineComment? text).map withReturns := by
  have inline : IsInline ['/', '/'] := ⟨by decide, by decide⟩
  let ending (later : List Char) : Option (List Char) := some (firstLine later)
  have sameEnding (later : List Char) :
      ending (withReturns later) = (ending later).map withReturns := by
    simp only [ending, firstLine_withReturns, Option.map_some]
  refine lexeme_withReturns_of_opening lineComment? ending inline (fun _ => rfl) ?_ sameEnding text
  intro text notOpened
  unfold lineComment?
  split
  next later => exact absurd (List.prefix_append ['/', '/'] later) notOpened
  · rfl

/-- A carriage return that stood there before would begin a line end with the one that is put in. -/
theorem newline?_withReturns {text : List Char} (noReturn : '\r' ∉ text) :
    newline? (withReturns text) = (newline? text).map withReturns := by
  cases text with
  | nil => rfl
  | cons first later =>
      rcases Decidable.em (first = '\n') with rfl | notFeed
      · rfl
      · have notReturn : first ≠ '\r' := by
          rintro rfl
          exact noReturn List.mem_cons_self
        simp [withReturns_cons_of_ne notFeed, newline?, notFeed, notReturn]

end Trivia

namespace QuotedForm

theorem ne_backslash_of_takesNothing {first : Char} {later : List Char}
    (notLast : first = '\\' → later = [] → False)
    (notEscape : ∀ escaped others, first = '\\' → later = escaped :: others → False) :
    first ≠ '\\' := by
  intro backslash
  cases later with
  | nil => exact notLast backslash rfl
  | cons escaped others => exact notEscape escaped others backslash rfl

theorem throughQuote?_withReturns (text : List Char) :
    throughQuote? (withReturns text) = (throughQuote? text).map withReturns := by
  fun_induction throughQuote? text with
  | case1 => rfl
  | case2 later => rfl
  | case3 later => simp [throughQuote?]
  | case4 => rfl
  | case5 later => simp [withReturns_cons_of_ne, throughQuote?]
  | case6 escaped later notFeed ih =>
      rw [withReturns_escape notFeed]
      simp only [throughQuote?, ih, Option.map_map, Function.comp_def, withReturns_escape notFeed]
  | case7 first later notQuote notFeed notLast notBeforeFeed notEscape ih =>
      have notBackslash := ne_backslash_of_takesNothing notLast notEscape
      rw [withReturns_cons_of_ne notFeed]
      simp [throughQuote?, notBackslash, ih, Function.comp_def, withReturns_cons_of_ne notFeed]

theorem throughTripleQuote?_withReturns (text : List Char) :
    throughTripleQuote? (withReturns text) = (throughTripleQuote? text).map withReturns := by
  fun_induction throughTripleQuote? text with
  | case1 => rfl
  | case2 later => rfl
  | case3 => rfl
  | case4 escaped later ih =>
      rcases Decidable.em (escaped = '\n') with rfl | notFeed
      · simp [withReturns_cons_of_ne, throughTripleQuote?, ih, Function.comp_def]
      · rw [withReturns_escape notFeed]
        simp only [throughTripleQuote?, ih, Option.map_map, Function.comp_def,
          withReturns_escape notFeed]
  | case5 first later notClosing notLast notEscape ih =>
      have notBackslash := ne_backslash_of_takesNothing notLast notEscape
      rcases Decidable.em (first = '\n') with rfl | notFeed
      · simp [throughTripleQuote?, ih, Function.comp_def]
      · have stillOpen : ∀ rest, first = '"' → withReturns later = '"' :: '"' :: rest → False := by
          intro rest isQuote parts
          have quotes : IsInline ['"', '"'] := ⟨by decide, by decide⟩
          rcases (withReturns_eq_append_iff quotes).mp parts with ⟨behind, laterIs, -⟩
          exact notClosing behind isQuote laterIs
        rw [withReturns_cons_of_ne notFeed, throughTripleQuote?]
        · simp only [ih, Option.map_map, Function.comp_def, withReturns_cons_of_ne notFeed]
        · exact stillOpen
        · exact fun backslash _ => notBackslash backslash
        · exact fun _ _ backslash _ => notBackslash backslash

theorem textBlock?_withReturns (text : List Char) :
    textBlock? (withReturns text) = (textBlock? text).map withReturns := by
  have inline : IsInline ['"', '"', '"'] := ⟨by decide, by decide⟩
  refine lexeme_withReturns_of_opening textBlock? throughTripleQuote? inline (fun _ => rfl) ?_
    throughTripleQuote?_withReturns text
  intro text notOpened
  unfold textBlock?
  split
  next later => exact absurd (List.prefix_append ['"', '"', '"'] later) notOpened
  · rfl

theorem string?_withReturns (text : List Char) :
    string? (withReturns text) = (string? text).map withReturns := by
  have inline : IsInline ['"'] := ⟨by decide, by decide⟩
  refine lexeme_withReturns_of_opening string? throughQuote? inline (fun _ => rfl) ?_
    throughQuote?_withReturns text
  intro text notOpened
  unfold string?
  split
  next later => exact absurd (List.prefix_append ['"'] later) notOpened
  · rfl

theorem isInline_or_of_matches_char {piece : List Char}
    (inLanguage : (Pattern.ofQuoted .char).Matches piece) :
    IsInline piece ∨ piece = ['\'', '\r', '\''] := by
  rcases matches_char.mp inLanguage with ⟨body, rfl, ⟨content, rfl, -, -, notFeed⟩ | rfl | rfl⟩
  · rcases Decidable.em (content = '\r') with rfl | notReturn
    · exact Or.inr rfl
    · exact Or.inl ⟨by simpa using Ne.symm notFeed, by simpa using Ne.symm notReturn⟩
  · exact Or.inl ⟨by decide, by decide⟩
  · exact Or.inl ⟨by decide, by decide⟩

/-- No carriage return stands between quotes, for the ones that are put in are followed by a line
feed.
-/
theorem char?_withReturns {text : List Char} (noReturn : '\r' ∉ text) :
    char? (withReturns text) = (char? text).map withReturns := by
  have sameFound : char? (withReturns text) = char? text := by
    ext piece
    rw [← fits_char_iff, ← fits_char_iff, Kind.fits_iff_of_notWordBounded rfl,
      Kind.fits_iff_of_notWordBounded rfl]
    refine and_congr_left fun inLanguage => and_congr_right fun _ => ?_
    rcases isInline_or_of_matches_char inLanguage with inline | rfl
    · exact isPrefix_withReturns_iff inline
    · constructor
      · rintro ⟨rest, parts⟩
        have returnInside : withReturns text = ['\''] ++ '\r' :: '\'' :: rest := parts.symm
        rcases exists_feed_of_withReturns_eq noReturn returnInside with ⟨behind, feedBehind⟩
        exact absurd (List.cons.inj feedBehind).1 (by decide)
      · rintro ⟨rest, rfl⟩
        simp at noReturn
  rw [sameFound]
  cases found : char? text with
  | none => rfl
  | some piece =>
      rcases (Kind.fits_iff_of_notWordBounded rfl).mp (fits_char_iff.mpr found) with
        ⟨⟨-, begins⟩, inLanguage⟩
      rcases isInline_or_of_matches_char inLanguage with inline | rfl
      · rw [Option.map_some, withReturns_of_notMem inline.1]
      · exact absurd (begins.subset (by simp)) noReturn

end QuotedForm

/-! ## Lexemes -/

namespace Kind

variable {kind : Kind} {text : List Char}

theorem isInline_or (kind : Kind) :
    kind.isInline = true ∨
      kind ∈ [.trivia .blockComment, .trivia .lineComment, .trivia .newline, .quoted .textBlock,
        .quoted .string, .quoted .char] := by
  have listed : ∀ kind ∈ all, kind.isInline = true ∨
      kind ∈ [.trivia .blockComment, .trivia .lineComment, .trivia .newline, .quoted .textBlock,
        .quoted .string, .quoted .char] := by decide
  exact listed kind (mem_all kind)

/-- What a kind recognises in a text without carriage returns, it recognises with them, and the
other way round. -/
theorem lexeme?_withReturns (kind : Kind) (noReturn : '\r' ∉ text) :
    kind.lexeme? (withReturns text) = (kind.lexeme? text).map withReturns := by
  rcases kind.isInline_or with inlineKind | listed
  · exact lexeme?_withReturns_of_isInline inlineKind text
  · simp only [List.mem_cons, List.not_mem_nil, or_false] at listed
    rcases listed with rfl | rfl | rfl | rfl | rfl | rfl
    · exact Trivia.blockComment?_withReturns text
    · exact Trivia.lineComment?_withReturns text
    · exact Trivia.newline?_withReturns noReturn
    · exact QuotedForm.textBlock?_withReturns text
    · exact QuotedForm.string?_withReturns text
    · exact QuotedForm.char?_withReturns noReturn

theorem fitsAfter_withReturns (kind : Kind) (previous : Option UInt8) (text : List Char) :
    kind.fitsAfter previous (withReturns text) = kind.fitsAfter previous text := by
  have sameSign : NumberForm.sign (withReturns text) = NumberForm.sign text := by
    cases text with
    | nil => rfl
    | cons first later =>
        rcases Decidable.em (first = '\n') with rfl | notFeed
        · rfl
        · rw [withReturns_cons_of_ne notFeed]
          unfold NumberForm.sign
          split <;> simp_all
  rw [fitsAfter, fitsAfter, sameSign]

theorem lexemeAfter?_withReturns (kind : Kind) (previous : Option UInt8) (noReturn : '\r' ∉ text) :
    kind.lexemeAfter? previous (withReturns text) =
      (kind.lexemeAfter? previous text).map withReturns := by
  rw [lexemeAfter?, lexemeAfter?, fitsAfter_withReturns, lexeme?_withReturns kind noReturn]
  split
  · rfl
  · rfl

end Kind

namespace Lexeme

/-- The lexeme with a carriage return in front of every line feed that it holds. -/
def withReturns (lexeme : Lexeme) : Lexeme where
  kind := lexeme.kind
  text := Text.withReturns lexeme.text

theorem first?_withReturns (previous : Option UInt8) {text : List Char} (noReturn : '\r' ∉ text) :
    first? previous (Text.withReturns text) = (first? previous text).map withReturns := by
  rw [first?, first?, List.map_findSome?]
  congr 1
  funext kind
  simp only [Function.comp_apply, kind.lexemeAfter?_withReturns previous noReturn, Option.map_map]
  rfl

theorem flatMap_text_withReturns (lexemes : List Lexeme) :
    (lexemes.map withReturns).flatMap Lexeme.text =
      Text.withReturns (lexemes.flatMap Lexeme.text) := by
  induction lexemes with
  | nil => rfl
  | cons lexeme later ih => simp [ih, withReturns]

end Lexeme

/-- A text without carriage returns is read lexeme by lexeme as it is read with them. -/
theorem lex_withReturns (previous : Option UInt8) (text : List Char) (noReturn : '\r' ∉ text) :
    lex previous (withReturns text) =
      ((lex previous text).1.map Lexeme.withReturns, withReturns (lex previous text).2) := by
  induction previous, text using lex.induct with
  | case1 previous text stuck =>
      have stillStuck : Lexeme.first? previous (withReturns text) = none := by
        rw [Lexeme.first?_withReturns previous noReturn, stuck]
        rfl
      rw [lex_of_first?_eq_none stuck, lex_of_first?_eq_none stillStuck]
      rfl
  | case2 previous text lexeme found later left equal ih =>
      have stillFound : Lexeme.first? previous (withReturns text) = some lexeme.withReturns := by
        rw [Lexeme.first?_withReturns previous noReturn, found]
        rfl
      have parts := (Lexeme.first?_starts found).append_drop
      have behind : (withReturns text).drop lexeme.withReturns.text.length =
          withReturns (text.drop lexeme.text.length) := by
        rw [← parts, withReturns_append, parts]
        exact List.drop_left
      have noReturnBehind : '\r' ∉ text.drop lexeme.text.length :=
        fun member => noReturn (List.mem_of_mem_drop member)
      have sameLast : lexeme.withReturns.lastByte? = lexeme.lastByte? :=
        lastByte?_withReturns lexeme.text
      rw [lex_of_first?_eq_some found, lex_of_first?_eq_some stillFound, behind, sameLast,
        ih noReturnBehind]
      rfl

end Lexis
