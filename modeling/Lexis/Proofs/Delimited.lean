import Lexis.Proofs.Words

/-!
# Quoted literals, comments, blanks and their patterns

The body of a string leaves no choice where it ends: a quote in it is always escaped, so the first
quote that is not escaped closes the literal. The body of a text block or of a block comment may
hold its own closing mark, and the recognisers stop at the first one; every other piece that matches
the pattern is at least as long. Line comments and spaces are read as far as they go.
-/

namespace Lexis

namespace Kind

theorem fits_iff_of_notWordBounded {kind : Kind} (unbounded : kind.isWordBounded = false)
    {text piece : List Char} :
    kind.Fits text piece ↔ Starts piece text ∧ kind.pattern.Matches piece := by
  simp [Fits, unbounded]

/-- A spelling fits where it stands. -/
theorem fits_spelling_iff {kind : Kind} {spelling : List Char}
    (unbounded : kind.isWordBounded = false) (language : kind.pattern = .spelling spelling)
    (nonempty : spelling ≠ []) {text piece : List Char} :
    kind.Fits text piece ↔ spelled? spelling text = some piece := by
  rw [fits_iff_of_notWordBounded unbounded, language, Pattern.matches_spelling,
    spelled?_eq_some_iff]
  constructor
  · rintro ⟨starts, rfl⟩
    exact ⟨rfl, starts.2⟩
  · rintro ⟨rfl, begins⟩
    exact ⟨⟨nonempty, begins⟩, rfl⟩

end Kind

theorem Operator.spelling_ne_nil (sign : Operator) : sign.spelling ≠ [] := by
  cases sign <;> exact List.cons_ne_nil _ _

/-! ## Quoted literals -/

namespace QuotedForm

open Pattern

/-- A string goes on to the first quote that no backslash takes along, if no line feed comes before.
-/
theorem throughQuote?_eq_some_iff {text piece : List Char} :
    throughQuote? text = some piece ↔
      ∃ body rest, piece = body ++ ['"'] ∧ text = body ++ '"' :: rest ∧
        stringChar.zeroOrMore.Matches body := by
  fun_induction throughQuote? text generalizing piece with
  | case1 => simp
  | case2 later =>
      constructor
      · intro found
        exact ⟨[], later, (Option.some.inj found).symm, rfl, matches_zeroOrMore_nil⟩
      · rintro ⟨body, rest, rfl, parts, inBody⟩
        cases body with
        | nil => rfl
        | cons first others =>
            rcases List.cons.inj parts with ⟨rfl, -⟩
            simp [matches_stringChars_cons] at inBody
  | case3 later =>
      simp only [reduceCtorEq, false_iff]
      rintro ⟨body, rest, rfl, parts, inBody⟩
      cases body with
      | nil => simp at parts
      | cons first others =>
          rcases List.cons.inj parts with ⟨rfl, -⟩
          simp [matches_stringChars_cons] at inBody
  | case4 =>
      simp only [reduceCtorEq, false_iff]
      rintro ⟨body, rest, rfl, parts, inBody⟩
      cases body with
      | nil => simp at parts
      | cons first others => simp at parts
  | case5 later =>
      simp only [reduceCtorEq, false_iff]
      rintro ⟨body, rest, rfl, parts, inBody⟩
      cases body with
      | nil => simp at parts
      | cons first others =>
          rcases List.cons.inj parts with ⟨rfl, othersParts⟩
          rcases matches_stringChars_cons.mp inBody with ⟨plain, -⟩ | ⟨-, taken, more, rfl, kept, -⟩
          · exact plain.2.1 rfl
          · exact kept (List.cons.inj othersParts).1.symm
  | case6 escaped later notFeed ih =>
      rw [Option.map_eq_some_iff]
      constructor
      · rintro ⟨inner, innerFound, rfl⟩
        rcases ih.mp innerFound with ⟨body, rest, rfl, rfl, inBody⟩
        refine ⟨'\\' :: escaped :: body, rest, rfl, rfl, ?_⟩
        exact matches_stringChars_cons.mpr (Or.inr ⟨rfl, escaped, body, rfl, notFeed, inBody⟩)
      · rintro ⟨body, rest, rfl, parts, inBody⟩
        cases body with
        | nil => simp at parts
        | cons first others =>
            rcases List.cons.inj parts with ⟨rfl, othersParts⟩
            rcases matches_stringChars_cons.mp inBody with
              ⟨plain, -⟩ | ⟨-, taken, more, rfl, -, inMore⟩
            · exact absurd rfl plain.2.1
            · rcases List.cons.inj othersParts with ⟨rfl, moreParts⟩
              exact ⟨more ++ ['"'], ih.mpr ⟨more, rest, rfl, moreParts, inMore⟩, rfl⟩
  | case7 first later notQuote notFeed notLast notBeforeFeed notEscape ih =>
      have notBackslash : first ≠ '\\' := by
        intro backslash
        cases later with
        | nil => exact notLast backslash rfl
        | cons escaped others => exact notEscape escaped others backslash rfl
      rw [Option.map_eq_some_iff]
      constructor
      · rintro ⟨inner, innerFound, rfl⟩
        rcases ih.mp innerFound with ⟨body, rest, rfl, rfl, inBody⟩
        refine ⟨first :: body, rest, rfl, rfl, ?_⟩
        exact matches_stringChars_cons.mpr (Or.inl ⟨⟨notQuote, notBackslash, notFeed⟩, inBody⟩)
      · rintro ⟨body, rest, rfl, parts, inBody⟩
        cases body with
        | nil => exact absurd (List.cons.inj parts).1 notQuote
        | cons head others =>
            rcases List.cons.inj parts with ⟨rfl, othersParts⟩
            rcases matches_stringChars_cons.mp inBody with ⟨-, inOthers⟩ | ⟨backslash, -⟩
            · exact ⟨others ++ ['"'], ih.mpr ⟨others, rest, rfl, othersParts, inOthers⟩, rfl⟩
            · exact absurd backslash notBackslash

theorem matches_string {piece : List Char} :
    (ofQuoted .string).Matches piece ↔
      ∃ body, piece = '"' :: (body ++ ['"']) ∧ stringChar.zeroOrMore.Matches body :=
  matches_enclosed

theorem fits_string_iff {text piece : List Char} :
    (Kind.quoted .string).Fits text piece ↔ string? text = some piece := by
  rw [Kind.fits_iff_of_notWordBounded rfl, Kind.pattern, matches_string]
  constructor
  · rintro ⟨⟨-, rest, rfl⟩, body, rfl, inBody⟩
    have found : throughQuote? (body ++ ['"'] ++ rest) = some (body ++ ['"']) :=
      throughQuote?_eq_some_iff.mpr ⟨body, rest, rfl, by simp, inBody⟩
    simp only [string?, List.cons_append, found, Option.map_some]
  · intro found
    refine ⟨string?_starts found, ?_⟩
    unfold string? at found
    split at found
    next later =>
        rcases Option.map_eq_some_iff.mp found with ⟨inner, innerFound, rfl⟩
        rcases throughQuote?_eq_some_iff.mp innerFound with ⟨body, rest, rfl, rfl, inBody⟩
        exact ⟨body, rfl, inBody⟩
    · contradiction

theorem matches_char {piece : List Char} :
    (ofQuoted .char).Matches piece ↔
      ∃ body, piece = '\'' :: (body ++ ['\'']) ∧
        ((∃ content, body = [content] ∧ content ≠ '\'' ∧ content ≠ '\\' ∧ content ≠ '\n') ∨
          body = ['\\', 'n'] ∨ body = ['\\', 't']) := by
  have content {body : List Char} :
      (either (noneOf ['\'', '\\', '\n']) (inOrder [spelling ['\\'], oneOf ['n', 't']])).Matches
          body ↔
        (∃ content, body = [content] ∧ content ≠ '\'' ∧ content ≠ '\\' ∧ content ≠ '\n') ∨
          body = ['\\', 'n'] ∨ body = ['\\', 't'] := by
    simp only [matches_either, noneOf, oneOf, matches_spelling_inOrder, matches_inOrder_singleton,
      Pattern.matches_char, List.mem_cons, List.not_mem_nil, or_false, not_or, decide_eq_true_eq]
    apply or_congr Iff.rfl
    constructor
    · rintro ⟨right, rfl, letter, rfl, rfl | rfl⟩ <;> simp
    · rintro (rfl | rfl)
      · exact ⟨['n'], rfl, 'n', rfl, Or.inl rfl⟩
      · exact ⟨['t'], rfl, 't', rfl, Or.inr rfl⟩
  rw [ofQuoted, matches_enclosed]
  simp only [content, List.cons_append, List.nil_append]

theorem fits_char_iff {text piece : List Char} :
    (Kind.quoted .char).Fits text piece ↔ char? text = some piece := by
  rw [Kind.fits_iff_of_notWordBounded rfl, Kind.pattern, matches_char]
  constructor
  · rintro ⟨⟨-, rest, rfl⟩, body, rfl, ⟨content, rfl, notQuote, notBackslash, notFeed⟩ | rfl | rfl⟩
    · unfold char?
      split
      next letter later opening =>
          simp only [List.cons_append, List.cons.injEq, true_and] at opening
          exact absurd opening.1 notBackslash
      next other later _ opening =>
          simp only [List.cons_append, List.cons.injEq, true_and, List.nil_append] at opening
          rcases opening with ⟨rfl, -⟩
          simp [notQuote, notBackslash, notFeed]
      next noMatch => exact absurd rfl (noMatch content rest)
    · rfl
    · rfl
  · intro found
    refine ⟨char?_starts found, ?_⟩
    unfold char? at found
    split at found
    next letter later =>
        simp only [Option.ite_none_right_eq_some, Option.some.injEq] at found
        rcases found with ⟨rfl | rfl, rfl⟩
        · exact ⟨['\\', 'n'], rfl, Or.inr (Or.inl rfl)⟩
        · exact ⟨['\\', 't'], rfl, Or.inr (Or.inr rfl)⟩
    next content later _ =>
        simp only [Option.ite_none_left_eq_some, Option.some.injEq, not_or] at found
        rcases found with ⟨allowed, rfl⟩
        exact ⟨[content], rfl, Or.inl ⟨content, rfl, allowed⟩⟩
    · contradiction

/-- What a text block is read through is a body with three quotes behind it. -/
theorem matches_of_throughTripleQuote? {text piece : List Char}
    (found : throughTripleQuote? text = some piece) :
    ∃ body, piece = body ++ ['"', '"', '"'] ∧ escapable.zeroOrMore.Matches body := by
  fun_induction throughTripleQuote? text generalizing piece with
  | case1 => contradiction
  | case2 later => exact ⟨[], (Option.some.inj found).symm, matches_zeroOrMore_nil⟩
  | case3 => contradiction
  | case4 escaped later ih =>
      rcases Option.map_eq_some_iff.mp found with ⟨inner, innerFound, rfl⟩
      rcases ih innerFound with ⟨body, rfl, inBody⟩
      refine ⟨'\\' :: escaped :: body, rfl, ?_⟩
      exact matches_escapables_cons.mpr (Or.inr ⟨rfl, escaped, body, rfl, inBody⟩)
  | case5 first later _ notLast notEscape ih =>
      have notBackslash : first ≠ '\\' := by
        intro backslash
        cases later with
        | nil => exact notLast backslash rfl
        | cons escaped others => exact notEscape escaped others backslash rfl
      rcases Option.map_eq_some_iff.mp found with ⟨inner, innerFound, rfl⟩
      rcases ih innerFound with ⟨body, rfl, inBody⟩
      exact ⟨first :: body, rfl, matches_escapables_cons.mpr (Or.inl ⟨notBackslash, inBody⟩)⟩

/-- Where a body and three quotes stand, a text block is found, and it is no longer. -/
theorem throughTripleQuote?_le {text body rest : List Char}
    (parts : text = body ++ '"' :: '"' :: '"' :: rest)
    (inBody : escapable.zeroOrMore.Matches body) :
    ∃ piece, throughTripleQuote? text = some piece ∧ piece.length ≤ body.length + 3 := by
  fun_induction throughTripleQuote? text generalizing body with
  | case1 => simp at parts
  | case2 later => exact ⟨_, rfl, by simp⟩
  | case3 =>
      cases body with
      | nil => simp at parts
      | cons first others => simp at parts
  | case4 escaped later ih =>
      cases body with
      | nil => simp at parts
      | cons first others =>
          rcases List.cons.inj parts with ⟨rfl, othersParts⟩
          rcases matches_escapables_cons.mp inBody with ⟨plain, -⟩ | ⟨-, taken, more, rfl, inMore⟩
          · exact absurd rfl plain
          · rcases ih (List.cons.inj othersParts).2 inMore with ⟨piece, found, short⟩
            exact ⟨_, Option.map_eq_some_iff.mpr ⟨piece, found, rfl⟩, by simpa using short⟩
  | case5 first later notClosing notLast notEscape ih =>
      cases body with
      | nil =>
          rcases List.cons.inj parts with ⟨isQuote, laterIs⟩
          exact absurd laterIs (notClosing rest isQuote)
      | cons head others =>
          rcases List.cons.inj parts with ⟨rfl, othersParts⟩
          rcases matches_escapables_cons.mp inBody with
            ⟨-, inOthers⟩ | ⟨backslash, taken, more, rfl, -⟩
          · rcases ih othersParts inOthers with ⟨piece, found, short⟩
            exact ⟨_, Option.map_eq_some_iff.mpr ⟨piece, found, rfl⟩, by simpa using short⟩
          · exact absurd othersParts (notEscape taken _ backslash)

theorem matches_textBlock {piece : List Char} :
    (ofQuoted .textBlock).Matches piece ↔
      ∃ body, piece = '"' :: '"' :: '"' :: (body ++ ['"', '"', '"']) ∧
        escapable.zeroOrMore.Matches body :=
  matches_enclosed

theorem fits_of_textBlock? {text piece : List Char} (found : textBlock? text = some piece) :
    (Kind.quoted .textBlock).Fits text piece := by
  rw [Kind.fits_iff_of_notWordBounded rfl, Kind.pattern, matches_textBlock]
  refine ⟨textBlock?_starts found, ?_⟩
  unfold textBlock? at found
  split at found
  next later =>
      rcases Option.map_eq_some_iff.mp found with ⟨inner, innerFound, rfl⟩
      rcases matches_of_throughTripleQuote? innerFound with ⟨body, rfl, inBody⟩
      exact ⟨body, rfl, inBody⟩
  · contradiction

theorem textBlock?_le_of_fits {text other : List Char}
    (fits : (Kind.quoted .textBlock).Fits text other) :
    ∃ piece, textBlock? text = some piece ∧ piece.length ≤ other.length := by
  rw [Kind.fits_iff_of_notWordBounded rfl, Kind.pattern, matches_textBlock] at fits
  rcases fits with ⟨⟨-, rest, rfl⟩, body, rfl, inBody⟩
  have parts : body ++ ['"', '"', '"'] ++ rest = body ++ '"' :: '"' :: '"' :: rest := by simp
  rcases throughTripleQuote?_le parts inBody with ⟨inner, found, short⟩
  refine ⟨'"' :: '"' :: '"' :: inner, ?_, by simpa using short⟩
  simp only [textBlock?, List.cons_append, found, Option.map_some]

end QuotedForm

/-! ## Comments and blanks -/

namespace Trivia

open Pattern

theorem matches_of_throughCommentEnd? {text piece : List Char}
    (found : throughCommentEnd? text = some piece) : ∃ body, piece = body ++ ['*', '/'] := by
  fun_induction throughCommentEnd? text generalizing piece with
  | case1 later => exact ⟨[], (Option.some.inj found).symm⟩
  | case2 first later _ ih =>
      rcases Option.map_eq_some_iff.mp found with ⟨inner, innerFound, rfl⟩
      rcases ih innerFound with ⟨body, rfl⟩
      exact ⟨first :: body, rfl⟩
  | case3 => contradiction

theorem throughCommentEnd?_le {text body rest : List Char}
    (parts : text = body ++ '*' :: '/' :: rest) :
    ∃ piece, throughCommentEnd? text = some piece ∧ piece.length ≤ body.length + 2 := by
  fun_induction throughCommentEnd? text generalizing body with
  | case1 later => exact ⟨_, rfl, by simp⟩
  | case2 first later notClosing ih =>
      cases body with
      | nil =>
          rcases List.cons.inj parts with ⟨isStar, laterIs⟩
          exact absurd laterIs (notClosing rest isStar)
      | cons head others =>
          rcases List.cons.inj parts with ⟨rfl, othersParts⟩
          rcases ih othersParts with ⟨piece, found, short⟩
          exact ⟨_, Option.map_eq_some_iff.mpr ⟨piece, found, rfl⟩, by simpa using short⟩
  | case3 => simp at parts

theorem matches_blockComment {piece : List Char} :
    (ofTrivia .blockComment).Matches piece ↔
      ∃ body, piece = '/' :: '*' :: (body ++ ['*', '/']) := by
  rw [ofTrivia, matches_enclosed]
  simp [matches_zeroOrMore_char]

theorem fits_of_blockComment? {text piece : List Char} (found : blockComment? text = some piece) :
    (Kind.trivia .blockComment).Fits text piece := by
  rw [Kind.fits_iff_of_notWordBounded rfl, Kind.pattern, matches_blockComment]
  refine ⟨blockComment?_starts found, ?_⟩
  unfold blockComment? at found
  split at found
  next later =>
      rcases Option.map_eq_some_iff.mp found with ⟨inner, innerFound, rfl⟩
      rcases matches_of_throughCommentEnd? innerFound with ⟨body, rfl⟩
      exact ⟨body, rfl⟩
  · contradiction

theorem blockComment?_le_of_fits {text other : List Char}
    (fits : (Kind.trivia .blockComment).Fits text other) :
    ∃ piece, blockComment? text = some piece ∧ piece.length ≤ other.length := by
  rw [Kind.fits_iff_of_notWordBounded rfl, Kind.pattern, matches_blockComment] at fits
  rcases fits with ⟨⟨-, rest, rfl⟩, body, rfl⟩
  have parts : body ++ ['*', '/'] ++ rest = body ++ '*' :: '/' :: rest := by simp
  rcases throughCommentEnd?_le parts with ⟨inner, found, short⟩
  refine ⟨'/' :: '*' :: inner, ?_, by simpa using short⟩
  simp only [blockComment?, List.cons_append, found, Option.map_some]

/-- Of the pieces that a line comment could take, the line itself is the longest. -/
theorem length_le_firstLine {body closing rest : List Char}
    (inLine : body.all (fun char => decide (char ∉ ['\n'])) = true)
    (closingIs : closing = [] ∨ closing = ['\n']) :
    (body ++ closing).length ≤ (Text.firstLine (body ++ closing ++ rest)).length := by
  induction body with
  | nil =>
      rcases closingIs with rfl | rfl
      · simp
      · simp [Text.firstLine]
  | cons first others ih =>
      simp only [List.all_cons, Bool.and_eq_true, List.mem_cons, List.not_mem_nil, or_false,
        decide_eq_true_eq] at inLine
      have others_le := ih (by simpa using inLine.2)
      simp only [List.cons_append, Text.firstLine_cons_of_ne inLine.1, List.length_cons]
      omega

theorem matches_lineComment {piece : List Char} :
    (ofTrivia .lineComment).Matches piece ↔
      ∃ body closing, piece = '/' :: '/' :: (body ++ closing) ∧
        body.all (fun char => decide (char ∉ ['\n'])) = true ∧
        (closing = [] ∨ closing = ['\n']) := by
  rw [ofTrivia, matches_spelling_inOrder]
  constructor
  · rintro ⟨right, rfl, rightMatches⟩
    rcases matches_inOrder_cons.mp rightMatches with ⟨body, closing, rfl, inLine, closingMatches⟩
    rw [matches_inOrder_singleton, matches_optional, matches_spelling] at closingMatches
    exact ⟨body, closing, rfl, matches_zeroOrMore_char.mp inLine, closingMatches⟩
  · rintro ⟨body, closing, rfl, inLine, closingIs⟩
    refine ⟨body ++ closing, rfl, matches_inOrder_cons.mpr ⟨body, closing, rfl, ?_, ?_⟩⟩
    · exact matches_zeroOrMore_char.mpr inLine
    · rw [matches_inOrder_singleton, matches_optional, matches_spelling]
      exact closingIs

theorem exists_firstLine_parts (text : List Char) :
    ∃ body closing, Text.firstLine text = body ++ closing ∧
      body.all (fun char => decide (char ∉ ['\n'])) = true ∧
      (closing = [] ∨ closing = ['\n']) := by
  rcases exists_takeWhile_append (· != '\n') text with ⟨rest, parts, stops⟩
  have dropped : text.drop (text.takeWhile (· != '\n')).length = rest :=
    List.append_cancel_left
      ((List.prefix_iff_eq_append.mp (List.takeWhile_prefix _)).trans parts)
  refine ⟨text.takeWhile (· != '\n'), rest.take 1, ?_, ?_, ?_⟩
  · rw [Text.firstLine, dropped]
  · have inLine : (text.takeWhile (· != '\n')).all (· != '\n') = true := List.all_takeWhile
    rw [List.all_eq_true] at inLine ⊢
    intro char member
    have notFeed := inLine char member
    simpa using notFeed
  · cases rest with
    | nil => exact Or.inl rfl
    | cons first later =>
        right
        simpa using stops

theorem fits_of_lineComment? {text piece : List Char} (found : lineComment? text = some piece) :
    (Kind.trivia .lineComment).Fits text piece := by
  rw [Kind.fits_iff_of_notWordBounded rfl, Kind.pattern, matches_lineComment]
  refine ⟨lineComment?_starts found, ?_⟩
  unfold lineComment? at found
  split at found
  next later =>
      rcases exists_firstLine_parts later with ⟨body, closing, lineIs, inLine, closingIs⟩
      refine ⟨body, closing, ?_, inLine, closingIs⟩
      rw [← lineIs]
      exact (Option.some.inj found).symm
  · contradiction

theorem le_lineComment?_of_fits {text other : List Char}
    (fits : (Kind.trivia .lineComment).Fits text other) :
    ∃ piece, lineComment? text = some piece ∧ other.length ≤ piece.length := by
  rw [Kind.fits_iff_of_notWordBounded rfl, Kind.pattern, matches_lineComment] at fits
  rcases fits with ⟨⟨-, rest, rfl⟩, body, closing, rfl, inLine, closingIs⟩
  exact ⟨_, rfl, by simpa using length_le_firstLine inLine closingIs⟩

theorem matches_newline {piece : List Char} :
    (ofTrivia .newline).Matches piece ↔ piece = ['\n'] ∨ piece = ['\r', '\n'] := by
  rw [ofTrivia, matches_inOrder_cons]
  simp only [matches_optional, matches_inOrder_singleton, matches_spelling]
  constructor
  · rintro ⟨left, right, rfl, rfl | rfl, rfl⟩
    · exact Or.inl rfl
    · exact Or.inr rfl
  · rintro (rfl | rfl)
    · exact ⟨[], _, rfl, Or.inl rfl, rfl⟩
    · exact ⟨['\r'], _, rfl, Or.inr rfl, rfl⟩

theorem fits_newline_iff {text piece : List Char} :
    (Kind.trivia .newline).Fits text piece ↔ newline? text = some piece := by
  rw [Kind.fits_iff_of_notWordBounded rfl, Kind.pattern, matches_newline]
  constructor
  · rintro ⟨⟨-, rest, rfl⟩, rfl | rfl⟩ <;> rfl
  · intro found
    refine ⟨newline?_starts found, ?_⟩
    unfold newline? at found
    split at found
    · exact Or.inl (Option.some.inj found).symm
    · exact Or.inr (Option.some.inj found).symm
    · contradiction

theorem matches_spaces {piece : List Char} :
    (ofTrivia .spaces).Matches piece ↔ piece ≠ [] ∧ piece.all (· == ' ') = true := by
  have asChar {part : List Char} : part = [' '] ↔ ∃ char, part = [char] ∧ (char == ' ') = true := by
    simp
  rw [← matches_oneOrMore_char]
  simp only [ofTrivia, oneOrMore, Matches, asChar]

theorem fits_of_spaces? {text piece : List Char} (found : spaces? text = some piece) :
    (Kind.trivia .spaces).Fits text piece := by
  rw [Kind.fits_iff_of_notWordBounded rfl, Kind.pattern, matches_spaces]
  refine ⟨spaces?_starts found, (spaces?_starts found).1, ?_⟩
  simp only [spaces?, Option.ite_none_left_eq_some, Option.some.injEq] at found
  rw [← found.2]
  exact List.all_takeWhile

theorem le_spaces?_of_fits {text other : List Char}
    (fits : (Kind.trivia .spaces).Fits text other) :
    ∃ piece, spaces? text = some piece ∧ other.length ≤ piece.length := by
  rw [Kind.fits_iff_of_notWordBounded rfl, Kind.pattern, matches_spaces] at fits
  rcases fits with ⟨⟨nonempty, rest, rfl⟩, -, allSpaces⟩
  have run : (other ++ rest).takeWhile (· == ' ') = other ++ rest.takeWhile (· == ' ') :=
    List.takeWhile_append_of_pos (by simpa using allSpaces)
  refine ⟨other ++ rest.takeWhile (· == ' '), ?_, by simp⟩
  simp [spaces?, run, nonempty]

end Trivia

end Lexis
