import Lexis.Proofs.Carets
import Lexis.Proofs.Failures

/-!
# Missing quotes

A failure at a quote is explained by the lack of a second quote, from the quote alone. For a string
this is the reason: no other text behind a double quote keeps a string from being read. A character
literal may also fail because of what it holds. Then its closing quote stands on the line, and the
explanation names the one thing that is not missing.

What a quote is followed by is read here once for both kinds of literals, without their recognisers:
a backslash takes the next character along, and the first quote that is not taken along is the
second one.
-/

namespace Lexis

/-- A text up to its first line feed. -/
def Text.restOfLine (text : List Char) : List Char :=
  text.takeWhile (· != '\n')

namespace QuotedForm

/-- What a text holds before its first quote of a kind, where a quote behind a backslash does not
count. -/
def heldBefore? (quote : Char) : List Char → Option (List Char)
  | '\\' :: taken :: later => (heldBefore? quote later).map fun held => '\\' :: taken :: held
  | first :: later =>
      if first = quote then some [] else (heldBefore? quote later).map (first :: ·)
  | [] => none

theorem isPrefix_of_heldBefore? {quote : Char} {text held : List Char}
    (found : heldBefore? quote text = some held) : held ++ [quote] <+: text := by
  fun_induction heldBefore? quote text generalizing held with
  | case1 taken later ih =>
      rcases Option.map_eq_some_iff.mp found with ⟨body, bodyFound, rfl⟩
      simpa using ih bodyFound
  | case2 later notEscape =>
      rcases Option.some.inj found with rfl
      exact List.prefix_append [quote] later
  | case3 first later notEscape notQuote ih =>
      rcases Option.map_eq_some_iff.mp found with ⟨body, bodyFound, rfl⟩
      simpa using ih bodyFound
  | case4 => contradiction

/-- On the line of an unclosed string no second quote is met. -/
theorem heldBefore?_of_unclosed {later : List Char} (unclosed : Unclosed later) :
    heldBefore? '"' (Text.restOfLine later) = none := by
  induction unclosed with
  | ended => rfl
  | feed later => rfl
  | @escape taken later notFeed _ ih =>
      have restIs : Text.restOfLine ('\\' :: taken :: later) =
          '\\' :: taken :: Text.restOfLine later := by
        simp [Text.restOfLine, notFeed]
      rw [restIs, heldBefore?, ih, Option.map_none]
  | @backslash later takesNothing _ _ =>
      have restIs : Text.restOfLine ('\\' :: later) = ['\\'] := by
        cases later with
        | nil => rfl
        | cons first others =>
            have feed : first = '\n' := by simpa using takesNothing
            simp [Text.restOfLine, feed]
      rw [restIs]
      rfl
  | @plain first later notQuote notBackslash notFeed _ ih =>
      have restIs : Text.restOfLine (first :: later) = first :: Text.restOfLine later := by
        simp [Text.restOfLine, notFeed]
      rw [restIs]
      simp [heldBefore?, notBackslash, notQuote, ih]

/-- A character literal that is not read, though a second quote is met on its line, does not hold
what a character literal may hold. -/
theorem not_matches_of_not_closesChar {later held : List Char} (unclosed : ¬ClosesChar later)
    (found : heldBefore? '\'' (Text.restOfLine later) = some held) :
    ¬(Kind.quoted .char).pattern.Matches ('\'' :: held ++ ['\'']) := by
  intro inLanguage
  apply unclosed
  have onLine : Text.restOfLine later <+: later := List.takeWhile_prefix _
  have begins : '\'' :: held ++ ['\''] <+: '\'' :: later :=
    List.cons_prefix_cons.mpr ⟨rfl, (isPrefix_of_heldBefore? found).trans onLine⟩
  have fits : (Kind.quoted .char).Fits ('\'' :: later) ('\'' :: held ++ ['\'']) :=
    (Kind.fits_iff_of_notWordBounded rfl).mpr ⟨⟨List.cons_ne_nil _ _, begins⟩, inLanguage⟩
  exact closesChar_iff.mpr ⟨_, fits_char_iff.mp fits⟩

end QuotedForm

/-- The two characters with which a quoted literal starts. -/
theorem eq_quote_of_isQuote {mark : Char}
    (isQuote : String.ofList [mark] = "\"" ∨ String.ofList [mark] = "'") :
    mark = '"' ∨ mark = '\'' := by
  apply isQuote.imp
  · intro double
    simpa using congrArg String.toList double
  · intro single
    simpa using congrArg String.toList single

theorem ScanError.character_eq_of_cause {error : ScanError} {quote nearby : String}
    (caused : error.cause = .unterminatedLiteral quote nearby) :
    quote = error.character ∧ (error.character = "\"" ∨ error.character = "'") := by
  unfold cause at caused
  split at caused
  · rename_i isQuote
    exact ⟨(Cause.unterminatedLiteral.inj caused).1.symm, isQuote⟩
  · contradiction

namespace Source

/-- A failure that is explained by a missing quote is one at a quote. Behind a double quote there is
no second one on the line, and behind a single quote there is none or what stands before it is not
what a character literal may hold. -/
theorem missing_quote_of_failure {source : Source} {error : ScanError} {quote nearby : String}
    (failed : source.significantTokens = .error error)
    (explained : error.diagnostic.cause = .unterminatedLiteral quote nearby) :
    ∃ before mark later, source.content.toList = before ++ mark :: later ∧
      Text.size before = error.position.offset ∧ quote = String.ofList [mark] ∧
      error.diagnostic.cause.tip? = some ("Missing closing " ++ quote ++ " for this literal") ∧
      (mark = '"' ∧ QuotedForm.heldBefore? mark (Text.restOfLine later) = none ∨
        mark = '\'' ∧ ∀ held, QuotedForm.heldBefore? mark (Text.restOfLine later) = some held →
          ¬(Kind.quoted .char).pattern.Matches (mark :: held ++ [mark])) := by
  have scanFailed := allTokens_eq_error_of_significantTokens_eq_error failed
  rcases exists_parts_of_error scanFailed with
    ⟨before, mark, later, parts, placed, characterIs, -⟩
  have unread := Lexeme.first?_eq_none_iff.mp
    (first?_eq_none_of_error scanFailed parts placed (List.cons_ne_nil mark later))
  rcases ScanError.character_eq_of_cause explained with ⟨quoteIs, isQuote⟩
  refine ⟨before, mark, later, parts, placed, quoteIs.trans characterIs, ?_, ?_⟩
  · rw [explained]
    rfl
  · rw [characterIs] at isQuote
    rcases eq_quote_of_isQuote isQuote with rfl | rfl
    · left
      have stringUnread := unread (.quoted .string)
      rw [Kind.lexemeAfter?_of_notWordBounded rfl] at stringUnread
      have unclosed := QuotedForm.string?_eq_none_iff.mp stringUnread
      exact ⟨rfl, QuotedForm.heldBefore?_of_unclosed unclosed⟩
    · right
      have charUnread := unread (.quoted .char)
      rw [Kind.lexemeAfter?_of_notWordBounded rfl] at charUnread
      have unclosed := QuotedForm.char?_eq_none_iff.mp charUnread
      exact ⟨rfl, fun held found => QuotedForm.not_matches_of_not_closesChar unclosed found⟩

/-- An escaped quote, and a quote on the next line. -/
theorem missing_quote_of_escaped_quote :
    let source : Source := { file := "s", content := "s = \"a\\\";\nt = \"b\";" }
    let error : ScanError :=
      { position := ⟨4, "s"⟩, line := 1, column := 4, character := "\"", nearby := "s = \"a\\\";" }
    source.significantTokens = .error error ∧
      error.diagnostic.cause = .unterminatedLiteral error.character error.nearby ∧
      ∃ before mark later, source.content.toList = before ++ mark :: later ∧
        Text.size before = error.position.offset ∧ error.character = String.ofList [mark] ∧
        error.diagnostic.cause.tip? =
          some ("Missing closing " ++ error.character ++ " for this literal") ∧
        (mark = '"' ∧ QuotedForm.heldBefore? mark (Text.restOfLine later) = none ∨
          mark = '\'' ∧ ∀ held, QuotedForm.heldBefore? mark (Text.restOfLine later) = some held →
            ¬(Kind.quoted .char).pattern.Matches (mark :: held ++ [mark])) := by
  intro source error
  have failed : source.significantTokens = .error error := by decide +kernel
  have explained :
      error.diagnostic.cause = .unterminatedLiteral error.character error.nearby := by
    decide
  exact ⟨failed, explained, missing_quote_of_failure failed explained⟩

/-- The literal `'ab'` holds two characters, and what is reported is that its closing quote is
missing.
-/
theorem closing_quote_of_two_characters :
    let content := "'ab'"
    let error : ScanError :=
      { position := ⟨0, "shell"⟩, line := 1, column := 0, character := "'", nearby := content }
    significantTokens { file := "shell", content := content } = .error error ∧
      error.diagnostic.cause = .unterminatedLiteral "'" content ∧
      error.diagnostic.cause.tip? = some "Missing closing ' for this literal" ∧
      cutAt content error.position.offset = .ok ([], ['\'', 'a', 'b', '\'']) ∧
      QuotedForm.heldBefore? '\'' (Text.restOfLine ['a', 'b', '\'']) = some ['a', 'b'] := by
  intro content error
  have cut : cutAt content error.position.offset = .ok ([], ['\'', 'a', 'b', '\'']) :=
    cutAt_eq_ok_iff.mpr ⟨by decide, rfl⟩
  exact ⟨by decide +kernel, by decide, by decide, cut, by decide⟩

end Source

end Lexis
