import Lexis.Proofs.Lookback
import Lexis.Proofs.Respacing

/-!
# Comments and blanks as spaces

Seen from the lexemes that carry meaning, every comment and every blank is a space: each of them
keeps its neighbours apart and ends with a byte that ends no operand. Several spaces are read as
one, and a text behind spaces is read as if nothing stood in front of it. So a text is read alike,
up to comments and blanks, where each of those is replaced by a space.
-/

namespace Lexis

/-! ## What carries meaning -/

/-- The lexemes that carry meaning. -/
def Lexeme.significant (lexemes : List Lexeme) : List Lexeme :=
  lexemes.filter (!·.kind.isTrivia)

theorem Lexeme.significant_append (front back : List Lexeme) :
    significant (front ++ back) = significant front ++ significant back :=
  List.filter_append ..

theorem Lexeme.significant_cons_of_isTrivia {lexeme : Lexeme} (trivia : lexeme.kind.isTrivia = true)
    (later : List Lexeme) : significant (lexeme :: later) = significant later := by
  simp [significant, trivia]

theorem Lexeme.significant_cons {lexeme : Lexeme} (significant : lexeme.kind.isTrivia = false)
    (later : List Lexeme) :
    Lexeme.significant (lexeme :: later) = lexeme :: Lexeme.significant later := by
  simp [Lexeme.significant, significant]

theorem Token.map_lexeme_significant (tokens : List Token) :
    (significant tokens).map Token.lexeme = Lexeme.significant (tokens.map Token.lexeme) := by
  rw [Lexeme.significant, List.filter_map]
  rfl

/-- The lexemes of a text that carry meaning, and the text that is left where no kind fits. -/
def lexSignificant (previous : Option UInt8) (text : List Char) : List Lexeme × List Char :=
  (Lexeme.significant (lex previous text).1, (lex previous text).2)

section LexSignificant

variable {previous : Option UInt8} {lexeme : Lexeme} {rest : List Char}

theorem lexSignificant_nil (previous : Option UInt8) : lexSignificant previous [] = ([], []) := by
  rw [lexSignificant, lex_of_first?_eq_none (Lexeme.first?_nil previous)]
  rfl

theorem lexSignificant_of_isTrivia
    (found : Lexeme.first? previous (lexeme.text ++ rest) = some lexeme)
    (trivia : lexeme.kind.isTrivia = true) :
    lexSignificant previous (lexeme.text ++ rest) =
      lexSignificant (Text.lastByte? lexeme.text) rest := by
  rw [lexSignificant, lex_of_first?_eq_some found, List.drop_left,
    Lexeme.significant_cons_of_isTrivia trivia]
  rfl

theorem lexSignificant_of_significant
    (found : Lexeme.first? previous (lexeme.text ++ rest) = some lexeme)
    (significant : lexeme.kind.isTrivia = false) :
    lexSignificant previous (lexeme.text ++ rest) =
      (lexeme :: (lexSignificant (Text.lastByte? lexeme.text) rest).1,
        (lexSignificant (Text.lastByte? lexeme.text) rest).2) := by
  rw [lexSignificant, lex_of_first?_eq_some found, List.drop_left,
    Lexeme.significant_cons significant]
  rfl

theorem lexSignificant_of_noOperand (noOperand : previous.any mayEndOperand = false)
    (text : List Char) : lexSignificant previous text = lexSignificant none text := by
  rw [lexSignificant, lex_of_noOperand noOperand]
  rfl

theorem Reading.lexSignificant_eq {before : List Char} {lexemes : List Lexeme}
    (reading : Reading before lexemes []) :
    lexSignificant (Text.lastByte? before) (lexemes.flatMap Lexeme.text) =
      (Lexeme.significant lexemes, []) := by
  rw [lexSignificant, reading.lex_eq_of_nil]

end LexSignificant

/-! ## Spaces -/

section Spaces

variable {spaces rest : List Char}

theorem lexSignificant_spaces (previous : Option UInt8) (nonempty : spaces ≠ [])
    (allSpaces : spaces.all (· == ' ') = true) (stops : rest.head?.any (· == ' ') = false) :
    lexSignificant previous (spaces ++ rest) = lexSignificant none rest := by
  let lexeme : Lexeme := ⟨.trivia .spaces, spaces⟩
  have recognised : lexeme.kind.lexeme? (lexeme.text ++ rest) = some lexeme.text :=
    Trivia.spaces?_append_eq_some_iff.mpr ⟨⟨nonempty, allSpaces⟩, stops⟩
  have lastIs : spaces.getLast? = some ' ' := by
    rw [List.getLast?_eq_some_getLast nonempty]
    exact congrArg some
      (beq_iff_eq.mp (List.all_eq_true.mp allSpaces _ (List.getLast_mem nonempty)))
  calc
    lexSignificant previous (spaces ++ rest) = lexSignificant (Text.lastByte? spaces) rest :=
      lexSignificant_of_isTrivia (Lexeme.first?_of_isTrivia rfl recognised previous) rfl
    _ = lexSignificant none rest :=
      lexSignificant_of_noOperand (Text.any_lastByte?_of_closingMark (by decide) lastIs) rest

/-- A text behind a space is read as if nothing stood in front of it. -/
theorem lexSignificant_space (previous : Option UInt8) (rest : List Char) :
    lexSignificant previous (' ' :: rest) = lexSignificant none rest := by
  rcases exists_takeWhile_append (· == ' ') rest with ⟨behind, parts, stops⟩
  generalize runIs : rest.takeWhile (· == ' ') = run at parts
  have allSpaces : run.all (· == ' ') = true := by
    rw [← runIs]
    exact List.all_takeWhile
  have wholeSpaces : (' ' :: run).all (· == ' ') = true := by simpa using allSpaces
  have whole := lexSignificant_spaces previous (List.cons_ne_nil _ _) wholeSpaces stops
  rw [List.cons_append, ← parts] at whole
  rw [whole, parts]
  cases run with
  | nil => rfl
  | cons first others =>
      exact (lexSignificant_spaces none (List.cons_ne_nil _ _) allSpaces stops).symm

theorem lexSignificant_spaces_append_space (previous : Option UInt8)
    (allSpaces : spaces.all (· == ' ') = true) (rest : List Char) :
    lexSignificant previous (spaces ++ ' ' :: rest) = lexSignificant none rest := by
  induction spaces generalizing previous with
  | nil => exact lexSignificant_space previous rest
  | cons first others ih =>
      rw [List.all_cons, Bool.and_eq_true, beq_iff_eq] at allSpaces
      rcases allSpaces with ⟨rfl, othersSpaces⟩
      rw [List.cons_append, lexSignificant_space]
      exact ih none othersSpaces

end Spaces

/-! ## Replacing comments and blanks -/

namespace Lexeme

/-- The text of a lexeme that carries meaning, and a space for one that does not. -/
def blanked (lexeme : Lexeme) : List Char :=
  if lexeme.kind.isTrivia then [' '] else lexeme.text

theorem respaced_blanked (lexemes : List Lexeme) : Respaced lexemes (lexemes.flatMap blanked) := by
  induction lexemes with
  | nil => exact .finish
  | cons lexeme later ih =>
      rw [List.flatMap_cons, blanked]
      split
      · exact .replace lexeme ih
      · exact .keep lexeme ih

end Lexeme

namespace Reading

variable {before : List Char} {lexeme : Lexeme} {later lexemes : List Lexeme}

/-- A comment or blank that others follow ends with a byte that ends no operand. -/
theorem any_lastByte?_of_isTrivia (reading : Reading before (lexeme :: later) [])
    (trivia : lexeme.kind.isTrivia = true) (followed : later ≠ []) :
    (Text.lastByte? lexeme.text).any mayEndOperand = false := by
  rcases Kind.exists_trivia_of_isTrivia trivia with ⟨form, formIs⟩
  have inLanguage := (Kind.fits_of_lexeme? reading.lexeme?_eq).2.1
  rw [formIs] at inLanguage
  have closed : form = .lineComment → lexeme.text.getLast? = some '\n' := by
    rintro rfl
    exact (reading.closes formIs).resolve_right followed
  rcases Trivia.exists_closingMark_of_matches inLanguage closed with ⟨last, mark, lastIs⟩
  exact Text.any_lastByte?_of_closingMark mark lastIs

/-- Where a space stands for every comment and blank, the lexemes that carry meaning are read as
before. -/
theorem lexSignificant_blanked (reading : Reading before lexemes []) {previous : Option UInt8}
    (alike : lexemes ≠ [] → ∀ text,
      Lexeme.first? previous text = Lexeme.first? (Text.lastByte? before) text) :
    lexSignificant previous (lexemes.flatMap Lexeme.blanked) =
      (Lexeme.significant lexemes, []) := by
  -- the byte in front may become another one, as long as it allows and forbids the same
  induction lexemes generalizing before previous with
  | nil => exact lexSignificant_nil previous
  | cons lexeme later ih =>
      have sameHere := alike (List.cons_ne_nil _ _)
      have nonempty := reading.text_ne_nil lexeme List.mem_cons_self
      have lastByteIs : Text.lastByte? (before ++ lexeme.text) = Text.lastByte? lexeme.text :=
        Text.lastByte?_append nonempty
      cases trivia : lexeme.kind.isTrivia with
      | true =>
          rw [List.flatMap_cons, Lexeme.blanked, if_pos trivia, List.singleton_append,
            lexSignificant_space, Lexeme.significant_cons_of_isTrivia trivia]
          apply ih reading.tail
          intro followed text
          rw [lastByteIs]
          exact (Lexeme.first?_of_noOperand (reading.any_lastByte?_of_isTrivia trivia followed)
            text).symm
      | false =>
          have laterRespaced := Lexeme.respaced_blanked later
          have found := laterRespaced.first?_eq reading trivia
          rw [← sameHere] at found
          have behind := ih reading.tail fun _ text => by rw [lastByteIs]
          rw [List.flatMap_cons, Lexeme.blanked, if_neg (by simp [trivia]),
            lexSignificant_of_significant found trivia, behind, Lexeme.significant_cons trivia]

end Reading

/-- The values of tokens one after the other, with a space for each comment and blank. -/
def Token.blankTrivia (tokens : List Token) : String :=
  String.ofList (tokens.flatMap fun token => if token.isTrivia then [' '] else token.value.toList)

theorem Token.toList_blankTrivia (tokens : List Token) :
    (blankTrivia tokens).toList = (tokens.map Token.lexeme).flatMap Lexeme.blanked := by
  rw [blankTrivia, String.toList_ofList, List.flatMap_map]
  rfl

namespace Source

variable {source : Source} {tokens : List Token}

/-- A source is scanned to its end, and gives some lexemes that carry meaning, where `lex` finds
those and leaves nothing. -/
theorem exists_tokens_of_lexSignificant {lexemes : List Lexeme}
    (read : lexSignificant none source.content.toList = (lexemes, [])) :
    ∃ tokens, source.allTokens = .ok tokens ∧
      (Token.significant tokens).map Token.lexeme = lexemes := by
  rcases Prod.mk.inj read with ⟨significantIs, leftIs⟩
  have lexed : lex none source.content.toList = ((lex none source.content.toList).1, []) :=
    Prod.ext rfl leftIs
  refine ⟨Lexeme.place source.file .start (lex none source.content.toList).1, ?_, ?_⟩
  · rw [allTokens, scan, scanFrom_of_lex_eq lexed]
    rfl
  · rw [Token.map_lexeme_significant, Lexeme.map_lexeme_place]
    exact significantIs

theorem significantTokens_of_allTokens (complete : source.allTokens = .ok tokens) :
    source.significantTokens = .ok (Token.significant tokens) :=
  congrArg (Except.map Token.significant) complete

/-- Where each comment and blank of a source that is scanned to its end is replaced by a space, the
source is still scanned to its end, and the tokens that carry meaning have the kinds and values that
they had. -/
theorem significantTokens_blankTrivia (complete : source.allTokens = .ok tokens) :
    ∃ respaced kept again,
      allTokens { source with content := Token.blankTrivia tokens } = .ok respaced ∧
      source.significantTokens = .ok kept ∧
      significantTokens { source with content := Token.blankTrivia tokens } = .ok again ∧
      again.map Token.lexeme = kept.map Token.lexeme := by
  have reading := (reading_of_allTokens_eq_ok complete).1
  have read := reading.lexSignificant_blanked fun _ _ => rfl
  rw [← Token.toList_blankTrivia] at read
  let blankedSource : Source := { source with content := Token.blankTrivia tokens }
  have blankedRead : lexSignificant none blankedSource.content.toList =
      (Lexeme.significant (tokens.map Token.lexeme), []) := read
  rcases exists_tokens_of_lexSignificant blankedRead with ⟨respaced, blankedComplete, sameLexemes⟩
  refine ⟨respaced, Token.significant tokens, Token.significant respaced, blankedComplete,
    significantTokens_of_allTokens complete, significantTokens_of_allTokens blankedComplete, ?_⟩
  rw [sameLexemes, Token.map_lexeme_significant]

/-- The comment in front of the sign and the line comment behind it give way to a space each. -/
theorem significantTokens_blankTrivia_of_comments :
    let source : Source := { file := "s", content := "x/*\\*/-//\"\n1e5" }
    let tokens := Lexeme.place "s" .start
      [⟨.identifier, ['x']⟩, ⟨.trivia .blockComment, ['/', '*', '\\', '*', '/']⟩,
        ⟨.operator .minus, ['-']⟩, ⟨.trivia .lineComment, ['/', '/', '"', '\n']⟩,
        ⟨.number .scientific, ['1', 'e', '5']⟩]
    source.allTokens = .ok tokens ∧ Token.blankTrivia tokens = "x - 1e5" ∧
      ∃ respaced kept again,
        allTokens { source with content := Token.blankTrivia tokens } = .ok respaced ∧
        source.significantTokens = .ok kept ∧
        significantTokens { source with content := Token.blankTrivia tokens } = .ok again ∧
        again.map Token.lexeme = kept.map Token.lexeme := by
  intro source tokens
  have complete : source.allTokens = .ok tokens := by decide +kernel
  exact ⟨complete, by decide +kernel, significantTokens_blankTrivia complete⟩

end Source

end Lexis
