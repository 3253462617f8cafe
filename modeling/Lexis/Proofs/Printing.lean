import Lexis.Proofs.Gaps
import Lexis.Proofs.Limits
import Lexis.Proofs.Readings

/-!
# Printed lexemes

Lexemes are printed one after the other with gaps between them. A gap opens with a blank, holds
comments and blanks only, and closes its last line comment. Reading the printed text back gives the
lexemes that were printed: each of them is kept apart from its neighbours by the gaps around it, and
each gap ends with a character that ends no operand.
-/

namespace Lexis

/-! ## Comments and blanks -/

/-- Every lexeme of a reading is a text of its kind. -/
theorem Reading.matches_of_mem {before rest : List Char} {lexemes : List Lexeme}
    (reading : Reading before lexemes rest) {lexeme : Lexeme} (member : lexeme ∈ lexemes) :
    lexeme.kind.pattern.Matches lexeme.text := by
  induction reading with
  | stop before rest => contradiction
  | pick found _ ih =>
      rcases List.mem_cons.mp member with rfl | member
      · have recognised := Lexeme.lexemeAfter?_of_first?_eq_some found
        exact (Kind.fits_of_lexeme? (Kind.lexemeAfter?_eq_some_iff.mp recognised).2).2.1
      · exact ih member

/-- A comment or blank of a reading is picked again, whatever is put in front of it or behind the
reading, where it is not carried on itself. -/
theorem Reading.first?_of_isTrivia {before tail : List Char} {lexeme : Lexeme} {later : List Lexeme}
    (reading : Reading before (lexeme :: later) []) (trivia : lexeme.kind.isTrivia = true)
    (ends : later = [] → lexeme.kind.EndsBefore lexeme.text tail) (previous : Option UInt8) :
    Lexeme.first? previous (lexeme.text ++ (later.flatMap Lexeme.text ++ tail)) = some lexeme := by
  have recognised := reading.lexeme?_eq
  have endsHere : lexeme.kind.EndsBefore lexeme.text (later.flatMap Lexeme.text ++ tail) := by
    cases later with
    | nil => exact ends rfl
    | cons next others =>
        rw [List.append_nil] at recognised
        exact (Kind.endsBefore_of_lexeme? recognised).append reading.tail.flatMap_text_ne_nil tail
  exact Lexeme.first?_of_isTrivia trivia
    (Kind.lexeme?_append_of_append recognised endsHere) previous

/-- Comments and blanks are read in front of every text that does not carry on the last of them,
whatever stands before them. -/
theorem Reading.before_tail {lexemes : List Lexeme} {before tail : List Char}
    (reading : Reading before lexemes [])
    (trivia : ∀ lexeme ∈ lexemes, lexeme.kind.isTrivia = true)
    (ends : ∀ lexeme ∈ lexemes.getLast?, lexeme.kind.EndsBefore lexeme.text tail)
    (other : List Char) : Reading other lexemes tail := by
  induction lexemes generalizing before other with
  | nil => exact .stop other tail
  | cons lexeme later ih =>
      have endsLast : later = [] → lexeme.kind.EndsBefore lexeme.text tail := by
        rintro rfl
        exact ends lexeme rfl
      refine .pick (reading.first?_of_isTrivia (trivia _ List.mem_cons_self) endsLast _) ?_
      apply ih reading.tail
      · intro next member
        exact trivia next (List.mem_cons_of_mem _ member)
      · intro last member
        apply ends last
        cases later with
        | nil => contradiction
        | cons next others => rwa [List.getLast?_cons_cons]

theorem Text.any_lastByte?_of_closingMark {text : List Char} {last : Char}
    (mark : last ∈ Trivia.closingMarks) (lastIs : text.getLast? = some last) :
    (Text.lastByte? text).any mayEndOperand = false := by
  have noOperand : Trivia.closingMarks.all (fun last =>
      !(String.utf8EncodeChar last).getLast?.any mayEndOperand) = true := by decide
  rw [Text.lastByte?, lastIs]
  simpa using List.all_eq_true.mp noOperand last mark

/-! ## Gaps -/

/-- A text of comments and blanks that opens with a blank and leaves no line comment open. -/
structure IsGap (text : List Char) : Prop where
  opens : ∃ mark ∈ gapMarks, text.head? = some mark
  closes : ∃ file tokens, (Source.named file (String.ofList text)).allTokens = .ok tokens ∧
    (∀ token ∈ tokens, token.isTrivia = true) ∧
    ∀ token ∈ tokens.getLast?, token.kind = .trivia .lineComment →
      token.value.toList.getLast? = some '\n'

namespace IsGap

variable {text : List Char}

theorem ne_nil (gap : IsGap text) : text ≠ [] := by
  rcases gap.opens with ⟨mark, -, opening⟩
  rintro rfl
  contradiction

theorem opensGap_append (gap : IsGap text) (tail : List Char) : OpensGap (text ++ tail) := by
  rcases gap.opens with ⟨mark, gapMark, opening⟩
  cases text with
  | nil => contradiction
  | cons first later =>
      intro other member
      rcases Option.some.inj opening with rfl
      rcases Option.some.inj member with rfl
      exact gapMark

theorem exists_lexemes (gap : IsGap text) :
    ∃ earlier last, text = (earlier ++ [last]).flatMap Lexeme.text ∧
      Reading [] (earlier ++ [last]) [] ∧
      (∀ lexeme ∈ earlier ++ [last], lexeme.kind.isTrivia = true) ∧
      (last.kind = .trivia .lineComment → last.text.getLast? = some '\n') := by
  rcases gap.closes with ⟨file, tokens, complete, trivia, closed⟩
  rcases Source.reading_of_allTokens_eq_ok complete with ⟨reading, fills⟩
  rw [Source.named, String.toList_ofList] at fills
  rcases List.eq_nil_or_concat' tokens with rfl | ⟨others, last, rfl⟩
  · exact absurd fills gap.ne_nil
  · have allTrivia : ∀ lexeme ∈ (others ++ [last]).map Token.lexeme,
        lexeme.kind.isTrivia = true := by
      intro lexeme member
      rcases List.mem_map.mp member with ⟨token, tokenMember, rfl⟩
      exact trivia token tokenMember
    rw [List.map_append, List.map_singleton] at reading fills allTrivia
    exact ⟨others.map Token.lexeme, last.lexeme, fills, reading, allTrivia,
      closed last (by simp)⟩

/-- A gap ends with a byte that ends no operand. -/
theorem any_lastByte? (gap : IsGap text) : (Text.lastByte? text).any mayEndOperand = false := by
  rcases gap.exists_lexemes with ⟨earlier, last, fills, reading, trivia, closed⟩
  have lastMember : last ∈ earlier ++ [last] := by simp
  have inLanguage := reading.matches_of_mem lastMember
  rcases Kind.exists_trivia_of_isTrivia (trivia last lastMember) with ⟨form, formIs⟩
  rw [formIs] at inLanguage closed
  have formClosed : form = .lineComment → last.text.getLast? = some '\n' := by
    rintro rfl
    exact closed rfl
  rcases Trivia.exists_closingMark_of_matches inLanguage formClosed with
    ⟨mark, closingMark, markIs⟩
  apply Text.any_lastByte?_of_closingMark closingMark
  rw [fills]
  simp [markIs]

/-- A gap is read as comments and blanks between any text and a text that opens with no space. -/
theorem exists_reading (gap : IsGap text) (before : List Char) {tail : List Char}
    (noSpace : tail.head?.any (· == ' ') = false) :
    ∃ lexemes, lexemes.flatMap Lexeme.text = text ∧
      (∀ lexeme ∈ lexemes, lexeme.kind.isTrivia = true) ∧ Reading before lexemes tail := by
  rcases gap.exists_lexemes with ⟨earlier, last, fills, reading, trivia, closed⟩
  refine ⟨earlier ++ [last], fills.symm, trivia, ?_⟩
  apply reading.before_tail trivia
  intro lexeme member
  rw [List.getLast?_concat] at member
  rcases Option.some.inj member with rfl
  refine ⟨?_, ?_, ?_⟩
  · intro bounded
    have lastTrivia := trivia last (by simp)
    rcases Kind.exists_trivia_of_isTrivia lastTrivia with ⟨form, formIs⟩
    rw [formIs] at bounded
    contradiction
  · intro _
    exact noSpace
  · intro isLine
    exact Or.inl (closed isLine)

end IsGap

/-! ## Printing -/

namespace Lexeme

/-- A lexeme carries meaning, and its text by itself is scanned as that one lexeme. -/
structure StandsAlone (lexeme : Lexeme) : Prop where
  significant : lexeme.kind.isTrivia = false
  alone : ∃ file token, (Source.named file (String.ofList lexeme.text)).allTokens = .ok [token] ∧
    token.lexeme = lexeme

/-- The text of a lexeme and of those that follow it, each behind its gap. -/
def print (first : Lexeme) : List (List Char × Lexeme) → List Char
  | [] => first.text
  | (gap, next) :: later => first.text ++ (gap ++ print next later)

variable {lexeme : Lexeme}

theorem StandsAlone.first? (standing : lexeme.StandsAlone) :
    Lexeme.first? none lexeme.text = some lexeme := by
  rcases standing.alone with ⟨file, token, complete, rfl⟩
  have reading := (Source.reading_of_allTokens_eq_ok complete).1
  rw [List.map_singleton] at reading
  cases reading with
  | pick found _ => simpa [Text.lastByte?] using found

/-- A printed text starts with no space, because blanks carry no meaning. -/
theorem StandsAlone.any_head?_print (standing : lexeme.StandsAlone)
    (later : List (List Char × Lexeme)) :
    (print lexeme later).head?.any (· == ' ') = false := by
  have found := standing.first?
  have starts := first?_starts found
  have exists_rest : ∃ rest, print lexeme later = lexeme.text ++ rest := by
    cases later with
    | nil => exact ⟨[], (List.append_nil _).symm⟩
    | cons part others => exact ⟨part.1 ++ print part.2 others, rfl⟩
  rcases exists_rest with ⟨rest, printed⟩
  rw [printed]
  cases text : lexeme.text with
  | nil => exact absurd text starts.1
  | cons first behind =>
      rw [text] at found
      rw [List.cons_append, List.head?_cons, Option.any_some, beq_eq_false_iff_ne]
      rintro rfl
      have rival := Kind.mem_rivals_of_lexemeAfter? (lexemeAfter?_of_first?_eq_some found)
      have blank := Kind.isTrivia_of_mem_rivals List.mem_cons_self rival
      rw [standing.significant] at blank
      contradiction

/-- Lexemes that stand alone are read back as they are printed, with comments and blanks between
them, where the byte before the first of them ends no operand. -/
theorem exists_reading_print {before : List Char} {first : Lexeme}
    {later : List (List Char × Lexeme)}
    (noOperand : (Text.lastByte? before).any mayEndOperand = false)
    (standing : first.StandsAlone)
    (laterStanding : ∀ part ∈ later, IsGap part.1 ∧ part.2.StandsAlone) :
    ∃ lexemes, print first later = lexemes.flatMap Lexeme.text ∧ Reading before lexemes [] ∧
      lexemes.filter (!·.kind.isTrivia) = first :: later.map Prod.snd := by
  -- by induction on what follows, since every gap leaves a byte that ends no operand
  induction later generalizing first before with
  | nil =>
      have found := first?_append_of_gap standing.first? standing.significant opensGap_nil noOperand
      refine ⟨[first], by simp [print], .pick (by simpa using found) (.stop _ _), ?_⟩
      simp [standing.significant]
  | cons part others ih =>
      rcases part with ⟨gap, next⟩
      rcases List.forall_mem_cons.mp laterStanding with ⟨⟨isGap, nextStanding⟩, othersStanding⟩
      have found := first?_append_of_gap standing.first? standing.significant
        (isGap.opensGap_append (print next others)) noOperand
      have gapEnds : (Text.lastByte? (before ++ first.text ++ gap)).any mayEndOperand = false := by
        rw [Text.lastByte?_append isGap.ne_nil]
        exact isGap.any_lastByte?
      rcases ih gapEnds nextStanding othersStanding with ⟨lexemes, printed, reading, kept⟩
      rcases isGap.exists_reading (before ++ first.text) (nextStanding.any_head?_print others) with
        ⟨blanks, rfl, blanksTrivia, blanksReading⟩
      rw [printed] at found blanksReading
      refine ⟨first :: (blanks ++ lexemes), by simp [print, printed], ?_, ?_⟩
      · apply Reading.pick
        · simpa using found
        · exact Reading.append (by simpa using blanksReading) reading
      · have noBlanks : blanks.filter (!·.kind.isTrivia) = [] := by
          rw [List.filter_eq_nil_iff]
          intro blank member
          simp [blanksTrivia blank member]
        simp [standing.significant, noBlanks, kept]

end Lexeme

namespace Source

theorem significantTokens_print {first : Lexeme} {later : List (List Char × Lexeme)}
    (standing : first.StandsAlone)
    (laterStanding : ∀ part ∈ later, IsGap part.1 ∧ part.2.StandsAlone) (file : Option String) :
    ∃ tokens,
      (named file (String.ofList (Lexeme.print first later))).significantTokens = .ok tokens ∧
        tokens.map Token.lexeme = first :: later.map Prod.snd := by
  have noOperand : (Text.lastByte? []).any mayEndOperand = false := rfl
  rcases Lexeme.exists_reading_print noOperand standing laterStanding with
    ⟨lexemes, printed, reading, kept⟩
  let source := named file (String.ofList (lexemes.flatMap Lexeme.text))
  have complete : source.allTokens = .ok (Lexeme.place source.file .start lexemes) := by
    apply allTokens_of_reading reading
    exact String.toList_ofList
  rw [printed]
  refine ⟨Token.significant (Lexeme.place source.file .start lexemes), ?_, ?_⟩
  · exact congrArg (Except.map Token.significant) complete
  · calc
      (Token.significant (Lexeme.place source.file .start lexemes)).map Token.lexeme
          = ((Lexeme.place source.file .start lexemes).map Token.lexeme).filter
              (!·.kind.isTrivia) := by
            rw [List.filter_map]
            rfl
      _ = lexemes.filter (!·.kind.isTrivia) := by rw [Lexeme.map_lexeme_place]
      _ = first :: later.map Prod.snd := kept

/-- Lexemes that are printed with gaps between them are the tokens that carry meaning when the
printed text is scanned, as long as its size fits into a position. -/
theorem checkedSignificantTokens_print {first : Lexeme} {later : List (List Char × Lexeme)}
    (standing : first.StandsAlone)
    (laterStanding : ∀ part ∈ later, IsGap part.1 ∧ part.2.StandsAlone) (file : Option String) :
    ∃ tokens,
      AnswersUpTo
          (named file (String.ofList (Lexeme.print first later))).checkedSignificantTokens
          (Text.size (Lexeme.print first later)) (.ok tokens) ∧
        tokens.map Token.lexeme = first :: later.map Prod.snd := by
  rcases significantTokens_print standing laterStanding file with ⟨tokens, complete, kept⟩
  have answers := checkedSignificantTokens_of_complete complete
  rw [named, String.toList_ofList] at answers
  exact ⟨tokens, answers, kept⟩

/-- An empty string in front of another string, and a sign of division in front of a comment. -/
theorem checkedSignificantTokens_print_of_quotes_and_slash :
    let quotes : Lexeme := ⟨.quoted .string, ['"', '"']⟩
    let slash : Lexeme := ⟨.operator .divide, ['/']⟩
    let number : Lexeme := ⟨.number .scientific, ['+', '1', 'e', '5']⟩
    let later := [([' '], quotes), ([' ', '/', '*', '*', '/'], slash),
      (['\n', '/', '/', '\n'], number)]
    quotes.StandsAlone ∧ (∀ part ∈ later, IsGap part.1 ∧ part.2.StandsAlone) ∧
      ∃ tokens,
        (named none "\"\" \"\" /**//\n//\n+1e5").checkedSignificantTokens = .ok (.ok tokens) ∧
          tokens.map Token.lexeme = [quotes, quotes, slash, number] := by
  intro quotes slash number later
  have quotesStand : quotes.StandsAlone :=
    ⟨rfl, none, quotes.token defaultFile .start, by decide +kernel, by decide +kernel⟩
  have slashStands : slash.StandsAlone :=
    ⟨rfl, none, slash.token defaultFile .start, by decide +kernel, by decide +kernel⟩
  have numberStands : number.StandsAlone :=
    ⟨rfl, none, number.token defaultFile .start, by decide +kernel, by decide +kernel⟩
  have space : IsGap [' '] :=
    ⟨⟨' ', by decide, rfl⟩, none, Lexeme.place defaultFile .start [⟨.trivia .spaces, [' ']⟩],
      by decide +kernel, by decide +kernel, by decide +kernel⟩
  have comment : IsGap [' ', '/', '*', '*', '/'] :=
    ⟨⟨' ', by decide, rfl⟩, none, Lexeme.place defaultFile .start
      [⟨.trivia .spaces, [' ']⟩, ⟨.trivia .blockComment, ['/', '*', '*', '/']⟩],
      by decide +kernel, by decide +kernel, by decide +kernel⟩
  have line : IsGap ['\n', '/', '/', '\n'] :=
    ⟨⟨'\n', by decide, rfl⟩, none, Lexeme.place defaultFile .start
      [⟨.trivia .newline, ['\n']⟩, ⟨.trivia .lineComment, ['/', '/', '\n']⟩],
      by decide +kernel, by decide +kernel, by decide +kernel⟩
  have laterStanding : ∀ part ∈ later, IsGap part.1 ∧ part.2.StandsAlone := by
    simp only [later, List.forall_mem_cons]
    exact ⟨⟨space, quotesStand⟩, ⟨comment, slashStands⟩, ⟨line, numberStands⟩,
      List.forall_mem_nil _⟩
  rcases checkedSignificantTokens_print quotesStand laterStanding none with ⟨tokens, answers, kept⟩
  exact ⟨quotesStand, laterStanding, tokens, answers.eq_ok (by decide +kernel), kept⟩

end Source

end Lexis
