import Lexis.Proofs.Failures

/-!
# Contents between delimiters

A content is written between quotes with a backslash in front of each quote and each backslash in
it. Read with the rule for backslashes, such a text goes from escape to escape and from plain
character to plain character, and none of these steps begins with a quote. So the first quote that
it comes to, and the first three in a row, are those that were put behind the content, whatever
follows them.

Comments know no escapes. A content that holds no closing mark does not make up one together with
the mark behind it either, since the two characters of the mark differ.
-/

namespace Lexis

namespace QuotedForm

/-- A character as it is written between quotes: with a backslash in front if it is a quote or a
backslash. -/
def escapedChar (char : Char) : List Char :=
  if char = '"' ∨ char = '\\' then ['\\', char] else [char]

/-- A content as it is written between quotes. -/
def escaped (content : List Char) : List Char :=
  content.flatMap escapedChar

section Escaped

variable {first : Char} {content later : List Char}

theorem escaped_cons_of_taken (taken : first = '"' ∨ first = '\\') :
    escaped (first :: later) = '\\' :: first :: escaped later := by
  simp [escaped, escapedChar, taken]

theorem escaped_cons_of_plain (plain : ¬(first = '"' ∨ first = '\\')) :
    escaped (first :: later) = first :: escaped later := by
  simp [escaped, escapedChar, plain]

theorem escaped_ne_nil (nonempty : content ≠ []) : escaped content ≠ [] := by
  cases content with
  | nil => contradiction
  | cons first later =>
      rcases Decidable.em (first = '"' ∨ first = '\\') with taken | plain
      · simp [escaped_cons_of_taken taken]
      · simp [escaped_cons_of_plain plain]

/-- No escaped content begins with a quote. -/
theorem head?_escaped_ne_quote (content : List Char) : (escaped content).head? ≠ some '"' := by
  cases content with
  | nil => simp [escaped]
  | cons first later =>
      rcases Decidable.em (first = '"' ∨ first = '\\') with taken | plain
      · simp [escaped_cons_of_taken taken]
      · simpa [escaped_cons_of_plain plain] using (not_or.mp plain).1

/-- A content without line feeds is the body of a string once it is escaped. -/
theorem matches_stringChars_escaped (inLine : '\n' ∉ content) :
    Pattern.stringChar.zeroOrMore.Matches (escaped content) := by
  induction content with
  | nil => exact Pattern.matches_zeroOrMore_nil
  | cons first later ih =>
      simp only [List.mem_cons, not_or] at inLine
      have laterMatches := ih inLine.2
      rcases Decidable.em (first = '"' ∨ first = '\\') with taken | plain
      · rw [escaped_cons_of_taken taken]
        exact Pattern.matches_stringChars_cons.mpr
          (Or.inr ⟨rfl, first, _, rfl, Ne.symm inLine.1, laterMatches⟩)
      · rw [escaped_cons_of_plain plain]
        rw [not_or] at plain
        exact Pattern.matches_stringChars_cons.mpr
          (Or.inl ⟨⟨plain.1, plain.2, Ne.symm inLine.1⟩, laterMatches⟩)

/-- A string that holds an escaped content ends with the quote behind the content. -/
theorem string?_escaped (inLine : '\n' ∉ content) (after : List Char) :
    string? ('"' :: (escaped content ++ '"' :: after)) =
      some ('"' :: (escaped content ++ ['"'])) := by
  have closes : throughQuote? (escaped content ++ '"' :: after) =
      some (escaped content ++ ['"']) :=
    throughQuote?_eq_some_iff.mpr
      ⟨escaped content, after, rfl, rfl, matches_stringChars_escaped inLine⟩
  simp only [string?, closes, Option.map_some]

theorem throughTripleQuote?_escaped (content after : List Char) :
    throughTripleQuote? (escaped content ++ '"' :: '"' :: '"' :: after) =
      some (escaped content ++ ['"', '"', '"']) := by
  induction content with
  | nil => rfl
  | cons first later ih =>
      rcases Decidable.em (first = '"' ∨ first = '\\') with taken | plain
      · rw [escaped_cons_of_taken taken]
        simp [throughTripleQuote?, ih]
      · rw [escaped_cons_of_plain plain]
        rw [not_or] at plain
        simp [throughTripleQuote?, plain.1, plain.2, ih]

/-- A text block that holds an escaped content ends with the three quotes behind the content. -/
theorem textBlock?_escaped (content after : List Char) :
    textBlock? ('"' :: '"' :: '"' :: (escaped content ++ '"' :: '"' :: '"' :: after)) =
      some ('"' :: '"' :: '"' :: (escaped content ++ ['"', '"', '"'])) := by
  simp only [textBlock?, throughTripleQuote?_escaped, Option.map_some]

/-- A content that is not empty keeps the quotes of a string from opening a text block. -/
theorem textBlock?_eq_none_of_escaped (nonempty : content ≠ []) (after : List Char) :
    textBlock? ('"' :: (escaped content ++ '"' :: after)) = none := by
  have notQuote := head?_escaped_ne_quote content
  cases parts : escaped content with
  | nil => exact absurd parts (escaped_ne_nil nonempty)
  | cons first later =>
      rw [parts, List.head?_cons, ne_eq, Option.some.injEq] at notQuote
      simp [textBlock?, notQuote]

end Escaped

end QuotedForm

namespace Trivia

variable {content text : List Char}

/-- The first closing mark behind a content without one is the mark that was put there. -/
theorem throughCommentEnd?_of_not_isInfix (noMark : ¬['*', '/'] <:+: content) (after : List Char) :
    throughCommentEnd? (content ++ '*' :: '/' :: after) = some (content ++ ['*', '/']) := by
  induction content with
  | nil => rfl
  | cons first later ih =>
      have laterNoMark : ¬['*', '/'] <:+: later :=
        fun mark => noMark (mark.trans (List.suffix_cons first later).isInfix)
      -- a slash right behind a star would be in the content too, since the mark opens with a star
      have notHere : ∀ rest, first = '*' → later ++ '*' :: '/' :: after = '/' :: rest → False := by
        rintro rest rfl parts
        cases later with
        | nil => simp at parts
        | cons second others =>
            rcases List.cons.inj parts with ⟨rfl, -⟩
            exact noMark ⟨[], others, rfl⟩
      rw [List.cons_append, throughCommentEnd?.eq_2 _ _ notHere, ih laterNoMark]
      rfl

/-- No comment is closed where no closing mark stands. -/
theorem throughCommentEnd?_eq_none_iff :
    throughCommentEnd? text = none ↔ ¬['*', '/'] <:+: text := by
  rw [Option.eq_none_iff_forall_not_mem]
  constructor
  · rintro fails ⟨body, rest, rfl⟩
    have parts : body ++ ['*', '/'] ++ rest = body ++ '*' :: '/' :: rest := by simp
    rcases throughCommentEnd?_le parts with ⟨piece, found, -⟩
    exact fails piece found
  · intro noMark piece found
    rcases matches_of_throughCommentEnd? found with ⟨body, rfl⟩
    have markInPiece : ['*', '/'] <:+: body ++ ['*', '/'] := (List.suffix_append body _).isInfix
    exact noMark (markInPiece.trans (throughCommentEnd?_isPrefix found).isInfix)

end Trivia

/-! ## The lexeme at a delimiter -/

namespace Lexeme

/-- A kind is picked where it recognises something and its earlier rivals do not. -/
theorem first?_of_rivals {first : Char} {later piece : List Char} {kind : Kind}
    {earlier others : List Kind} (rivals : Kind.rivals first = earlier ++ kind :: others)
    (unbounded : kind.isWordBounded = false)
    (found : kind.lexeme? (first :: later) = some piece)
    (fails : ∀ other ∈ earlier, other.lexeme? (first :: later) = none)
    (previous : Option UInt8) : first? previous (first :: later) = some ⟨kind, piece⟩ := by
  have foundAfter : kind.lexemeAfter? previous (first :: later) = some piece := by
    rw [Kind.lexemeAfter?_of_notWordBounded unbounded, found]
  have earlierFail : (earlier.findSome? fun other =>
      (other.lexemeAfter? previous (first :: later)).map (Lexeme.mk other)) = none := by
    rw [List.findSome?_eq_none_iff]
    intro other member
    rw [Kind.lexemeAfter?_eq_none_of_lexeme? (fails other member), Option.map_none]
  rw [first?_cons, rivals, List.findSome?_append, earlierFail, Option.none_or, List.findSome?_cons,
    foundAfter, Option.map_some]

variable {content : List Char} (after : List Char) (previous : Option UInt8)

open QuotedForm Trivia

theorem first?_of_escaped_string (nonempty : content ≠ []) (inLine : '\n' ∉ content) :
    first? previous ('"' :: (escaped content ++ '"' :: after)) =
      some ⟨.quoted .string, '"' :: (escaped content ++ ['"'])⟩ := by
  have rivals : Kind.rivals '"' = [.quoted .textBlock] ++ .quoted .string :: [] := by decide
  apply first?_of_rivals rivals rfl (string?_escaped inLine after)
  rw [List.forall_mem_singleton]
  exact textBlock?_eq_none_of_escaped nonempty after

theorem first?_of_escaped_textBlock (content : List Char) :
    first? previous ('"' :: '"' :: '"' :: (escaped content ++ '"' :: '"' :: '"' :: after)) =
      some ⟨.quoted .textBlock, '"' :: '"' :: '"' :: (escaped content ++ ['"', '"', '"'])⟩ := by
  have rivals : Kind.rivals '"' = [] ++ .quoted .textBlock :: [.quoted .string] := by decide
  have found : (Kind.quoted .textBlock).lexeme? ('"' :: '"' :: '"' :: _) = some _ :=
    textBlock?_escaped content after
  exact first?_of_rivals rivals rfl found (List.forall_mem_nil _) previous

theorem first?_of_closed_comment (noMark : ¬['*', '/'] <:+: content) :
    first? previous ('/' :: '*' :: (content ++ '*' :: '/' :: after)) =
      some ⟨.trivia .blockComment, '/' :: '*' :: (content ++ ['*', '/'])⟩ := by
  have rivals : Kind.rivals '/' =
      [] ++ .trivia .blockComment :: [.trivia .lineComment, .operator .divide] := by decide
  have found : (Kind.trivia .blockComment).lexeme?
      ('/' :: '*' :: (content ++ '*' :: '/' :: after)) =
        some ('/' :: '*' :: (content ++ ['*', '/'])) := by
    simp only [Kind.lexeme?, Trivia.lexeme?, blockComment?,
      throughCommentEnd?_of_not_isInfix noMark, Option.map_some]
  exact first?_of_rivals rivals rfl found (List.forall_mem_nil _) previous

theorem first?_of_open_comment (noMark : ¬['*', '/'] <:+: after) :
    first? previous ('/' :: '*' :: after) = some ⟨.operator .divide, ['/']⟩ := by
  have rivals : Kind.rivals '/' =
      [.trivia .blockComment, .trivia .lineComment] ++ .operator .divide :: [] := by decide
  have noBlockComment : blockComment? ('/' :: '*' :: after) = none := by
    simp only [blockComment?, throughCommentEnd?_eq_none_iff.mpr noMark, Option.map_none]
  apply first?_of_rivals rivals rfl rfl
  rw [List.forall_mem_cons, List.forall_mem_singleton]
  exact ⟨noBlockComment, rfl⟩

end Lexeme

theorem lexemeAt_ofList {rest piece : List Char} {kind : Kind} (before : List Char)
    (found : Lexeme.first? (Text.lastByte? before) rest = some ⟨kind, piece⟩) :
    lexemeAt (String.ofList (before ++ rest)) (Text.size before) =
      .ok (some (kind, Text.size piece)) := by
  have nonempty : rest ≠ [] := by
    rintro rfl
    rw [Lexeme.first?_nil] at found
    contradiction
  rw [lexemeAt_of_parts String.toList_ofList nonempty, found, Option.map_some]

theorem Text.size_enclosed (opening body closing : List Char) :
    size (opening ++ (body ++ closing)) = size body + (size opening + size closing) := by
  rw [size_append, size_append]
  omega

section Delimited

open QuotedForm

/-- What is written between delimiters is one lexeme from the first delimiter to the last, whatever
stands around it: a content in quotes or in three quotes where it is escaped, and a content in the
marks of a block comment where it holds no closing mark. An opening mark behind which no closing
mark stands is a sign of division. -/
theorem lexemeAt_delimited (before content after : List Char) :
    (content ≠ [] → '\n' ∉ content →
      lexemeAt (String.ofList (before ++ '"' :: (escaped content ++ '"' :: after)))
          (Text.size before) =
        .ok (some (.quoted .string, Text.size (escaped content) + 2))) ∧
    lexemeAt (String.ofList
          (before ++ '"' :: '"' :: '"' :: (escaped content ++ '"' :: '"' :: '"' :: after)))
        (Text.size before) =
      .ok (some (.quoted .textBlock, Text.size (escaped content) + 6)) ∧
    (¬['*', '/'] <:+: content →
      lexemeAt (String.ofList (before ++ '/' :: '*' :: (content ++ '*' :: '/' :: after)))
          (Text.size before) =
        .ok (some (.trivia .blockComment, Text.size content + 4))) ∧
    (¬['*', '/'] <:+: after →
      lexemeAt (String.ofList (before ++ '/' :: '*' :: after)) (Text.size before) =
        .ok (some (.operator .divide, 1))) := by
  have stringSize : Text.size ('"' :: (escaped content ++ ['"'])) =
      Text.size (escaped content) + 2 :=
    Text.size_enclosed ['"'] (escaped content) ['"']
  have blockSize : Text.size ('"' :: '"' :: '"' :: (escaped content ++ ['"', '"', '"'])) =
      Text.size (escaped content) + 6 :=
    Text.size_enclosed ['"', '"', '"'] (escaped content) ['"', '"', '"']
  have commentSize : Text.size ('/' :: '*' :: (content ++ ['*', '/'])) = Text.size content + 4 :=
    Text.size_enclosed ['/', '*'] content ['*', '/']
  refine ⟨?_, ?_, ?_, ?_⟩
  · intro nonempty inLine
    have found := lexemeAt_ofList before (Lexeme.first?_of_escaped_string after _ nonempty inLine)
    rwa [stringSize] at found
  · have found := lexemeAt_ofList before (Lexeme.first?_of_escaped_textBlock after _ content)
    rwa [blockSize] at found
  · intro noMark
    have found := lexemeAt_ofList before (Lexeme.first?_of_closed_comment after _ noMark)
    rwa [commentSize] at found
  · intro noMark
    exact lexemeAt_ofList before (Lexeme.first?_of_open_comment after _ noMark)

/-- A content of quotes, a backslash and halves of comment marks stands between delimiters of each
sort, and in front of more of the same. -/
theorem lexemeAt_delimited_of_quotes_and_stars :
    let content : List Char := ['"', '\\', '/', '*', '"']
    let after : List Char := ['"', '/', '*']
    (content ≠ [] ∧ '\n' ∉ content ∧ ¬['*', '/'] <:+: content ∧ ¬['*', '/'] <:+: after) ∧
      lexemeAt (String.ofList (['x'] ++ '"' :: (escaped content ++ '"' :: after))) 1 =
        .ok (some (.quoted .string, 10)) ∧
      lexemeAt (String.ofList
          (['x'] ++ '"' :: '"' :: '"' :: (escaped content ++ '"' :: '"' :: '"' :: after))) 1 =
        .ok (some (.quoted .textBlock, 14)) ∧
      lexemeAt (String.ofList (['x'] ++ '/' :: '*' :: (content ++ '*' :: '/' :: after))) 1 =
        .ok (some (.trivia .blockComment, 9)) ∧
      lexemeAt (String.ofList (['x'] ++ '/' :: '*' :: after)) 1 =
        .ok (some (.operator .divide, 1)) := by
  intro content after
  have nonempty : content ≠ [] := by decide
  have inLine : '\n' ∉ content := by decide
  have contentNoMark : ¬['*', '/'] <:+: content := by decide
  have afterNoMark : ¬['*', '/'] <:+: after := by decide
  rcases lexemeAt_delimited ['x'] content after with ⟨string, textBlock, comment, divide⟩
  exact ⟨⟨nonempty, inLine, contentNoMark, afterNoMark⟩, string nonempty inLine, textBlock,
    comment contentNoMark, divide afterNoMark⟩

end Delimited

end Lexis
