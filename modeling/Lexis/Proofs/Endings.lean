import Lexis.Proofs.MaximalMunch

/-!
# Where lexemes end

How much of the text behind a lexeme matters to it? Hardly any: a kind recognises a piece in front
of a rest where it recognises the piece by itself and the rest does not carry it on. Only words and
numbers, spaces, and line comments that lack their line feed can be carried on, and all but the last
look no further than the next character.

A consequence is that no word lies across the end of a lexeme. Whether a piece fits is therefore
decided in front of such an end, and a text that is cut off there is recognised as before.
-/

namespace Lexis

/-- No word lies across the cut between two texts. -/
def PartsWords (before rest : List Char) : Prop :=
  before.getLast?.any isWordChar = true → rest.head?.any isWordChar = false

section PartsWords

variable {before front back rest : List Char}

theorem partsWords_nil_right (before : List Char) : PartsWords before [] := by
  intro _
  rfl

theorem PartsWords.of_append (parts : PartsWords (front ++ back) rest) :
    PartsWords back rest := by
  intro inWord
  exact parts (any_getLast?_append inWord)

theorem PartsWords.append (parts : PartsWords back rest) (nonempty : back ≠ []) :
    PartsWords (front ++ back) rest := by
  intro inWord
  apply parts
  rw [List.getLast?_append, List.getLast?_eq_some_getLast nonempty] at inWord
  rw [List.getLast?_eq_some_getLast nonempty]
  exact inWord

theorem partsWords_of_getLast? {last : Char} (ends : before.getLast? = some last)
    (notWord : isWordChar last = false) : PartsWords before rest := by
  intro inWord
  rw [ends, Option.any_some, notWord] at inWord
  contradiction

end PartsWords

/-- A line is read off the front of a text alone where it has its line feed or nothing follows. -/
theorem Text.firstLine_append_eq_iff {line rest : List Char} :
    firstLine (line ++ rest) = line ↔
      firstLine line = line ∧ (line.getLast? = some '\n' ∨ rest = []) := by
  rcases Decidable.em ('\n' ∈ line) with feed | noFeed
  · rcases List.eq_append_cons_of_mem feed with ⟨body, later, rfl, noFeed⟩
    have lineIs : firstLine (body ++ '\n' :: later) = body ++ ['\n'] :=
      firstLine_append_feed noFeed later
    have wholeIs : firstLine (body ++ '\n' :: (later ++ rest)) = body ++ ['\n'] :=
      firstLine_append_feed noFeed (later ++ rest)
    rw [List.append_assoc, List.cons_append, wholeIs, lineIs]
    constructor
    · intro same
      refine ⟨same, Or.inl ?_⟩
      rw [← same, List.getLast?_concat]
    · intro same
      exact same.1
  · have lineIs : firstLine line = line := firstLine_of_notMem noFeed
    rw [firstLine_append_of_notMem noFeed]
    constructor
    · intro same
      refine ⟨lineIs, Or.inr ?_⟩
      apply Decidable.of_not_not
      intro nonempty
      exact firstLine_ne_nil nonempty (List.append_right_eq_self.mp same)
    · rintro ⟨-, ends | rfl⟩
      · exact absurd (List.mem_of_getLast? ends) noFeed
      · exact List.append_nil line

namespace Trivia

/-- The characters with which comments and blanks end, a line comment without its line feed apart.
-/
def closingMarks : List Char :=
  ['/', '\n', '\t', ' ']

theorem exists_closingMark_of_matches {form : Trivia} {piece : List Char}
    (inLanguage : (Pattern.ofTrivia form).Matches piece)
    (closed : form = .lineComment → piece.getLast? = some '\n') :
    ∃ last ∈ closingMarks, piece.getLast? = some last := by
  cases form with
  | blockComment =>
      rcases matches_blockComment.mp inLanguage with ⟨body, rfl⟩
      exact ⟨'/', by decide, by simp [List.getLast?_cons, List.getLast?_append]⟩
  | lineComment => exact ⟨'\n', by decide, closed rfl⟩
  | newline =>
      rcases matches_newline.mp inLanguage with rfl | rfl
      · exact ⟨'\n', by decide, rfl⟩
      · exact ⟨'\n', by decide, rfl⟩
  | tab =>
      rw [Pattern.ofTrivia, Pattern.matches_spelling] at inLanguage
      exact ⟨'\t', by decide, by rw [inLanguage]; rfl⟩
  | spaces =>
      rcases matches_spaces.mp inLanguage with ⟨nonempty, allSpaces⟩
      have last := List.getLast?_eq_some_getLast nonempty
      have space := List.all_eq_true.mp allSpaces _ (List.getLast_mem nonempty)
      exact ⟨' ', by decide, by rw [last, beq_iff_eq.mp space]⟩

theorem isWordChar_eq_false_of_mem_closingMarks {last : Char} (member : last ∈ closingMarks) :
    isWordChar last = false := by
  have noWordChars : closingMarks.all (fun other => !isWordChar other) = true := by decide
  simpa using List.all_eq_true.mp noWordChars last member

/-- A line comment is read off the front of a text alone where it has its line feed or nothing
follows. -/
theorem lineComment?_append_eq_some_iff {piece rest : List Char} :
    lineComment? (piece ++ rest) = some piece ↔
      lineComment? piece = some piece ∧ (piece.getLast? = some '\n' ∨ rest = []) := by
  have opens {text : List Char} (found : lineComment? text = some piece) :
      ∃ line, piece = '/' :: '/' :: line := by
    unfold lineComment? at found
    split at found
    next later => exact ⟨Text.firstLine later, (Option.some.inj found).symm⟩
    · contradiction
  have reads (line behind : List Char) :
      lineComment? ('/' :: '/' :: (line ++ behind)) = some ('/' :: '/' :: line) ↔
        Text.firstLine (line ++ behind) = line := by
    simp [lineComment?]
  have last {line : List Char} (nonempty : line ≠ []) :
      ('/' :: '/' :: line).getLast? = line.getLast? := by
    rw [List.getLast?_eq_some_getLast nonempty]
    simp [List.getLast?_cons, List.getLast?_eq_some_getLast nonempty]
  constructor
  · intro found
    rcases opens found with ⟨line, rfl⟩
    rcases Text.firstLine_append_eq_iff.mp ((reads line rest).mp found) with ⟨lineIs, feed | empty⟩
    · have nonempty : line ≠ [] := by
        rintro rfl
        contradiction
      have alone := (reads line []).mpr (by rwa [List.append_nil])
      rw [List.append_nil] at alone
      exact ⟨alone, Or.inl (by rw [last nonempty, feed])⟩
    · subst empty
      rw [List.append_nil] at found
      exact ⟨found, Or.inr rfl⟩
  · rintro ⟨alone, closes⟩
    rcases opens alone with ⟨line, rfl⟩
    have lineIs := (reads line []).mp (by rwa [List.append_nil])
    rw [List.append_nil] at lineIs
    apply (reads line rest).mpr
    apply Text.firstLine_append_eq_iff.mpr
    refine ⟨lineIs, ?_⟩
    rcases closes with feed | empty
    · have nonempty : line ≠ [] := by
        rintro rfl
        contradiction
      left
      rw [← feed, last nonempty]
    · exact Or.inr empty

/-- Spaces are read off the front of a text alone where no further space follows. -/
theorem spaces?_append_eq_some_iff {piece rest : List Char} :
    spaces? (piece ++ rest) = some piece ↔
      (piece ≠ [] ∧ piece.all (· == ' ') = true) ∧ rest.head?.any (· == ' ') = false := by
  simp only [spaces?, Option.ite_none_left_eq_some, Option.some.injEq]
  constructor
  · rintro ⟨nonempty, run⟩
    rcases exists_takeWhile_append (· == ' ') (piece ++ rest) with ⟨behind, parts, stops⟩
    rw [run] at nonempty parts
    rw [← List.append_cancel_left parts] at stops
    refine ⟨⟨nonempty, ?_⟩, stops⟩
    rw [← run]
    exact List.all_takeWhile
  · rintro ⟨⟨nonempty, allSpaces⟩, stops⟩
    have run := takeWhile_append_of_stop allSpaces stops
    exact ⟨by rwa [run], run⟩

end Trivia

theorem QuotedForm.exists_quote_of_matches {form : QuotedForm} {piece : List Char}
    (inLanguage : (Pattern.ofQuoted form).Matches piece) :
    piece.getLast? = some '"' ∨ piece.getLast? = some '\'' := by
  cases form with
  | textBlock =>
      rcases matches_textBlock.mp inLanguage with ⟨body, rfl, -⟩
      left
      simp [List.getLast?_cons, List.getLast?_append]
  | string =>
      rcases matches_string.mp inLanguage with ⟨body, rfl, -⟩
      left
      simp [List.getLast?_cons, List.getLast?_append]
  | char =>
      rcases matches_char.mp inLanguage with ⟨body, rfl, -⟩
      right
      simp [List.getLast?_cons, List.getLast?_append]

namespace Kind

variable {kind : Kind} {piece rest : List Char}

/-- A rest does not carry on a lexeme of a kind that stands in front of it. -/
structure EndsBefore (kind : Kind) (piece rest : List Char) : Prop where
  word : kind.isWordBounded = true → rest.head?.any isWordChar = false
  spaces : kind = .trivia .spaces → rest.head?.any (· == ' ') = false
  line : kind = .trivia .lineComment → piece.getLast? = some '\n' ∨ rest = []

theorem EndsBefore.partsWords (ends : kind.EndsBefore piece rest)
    (inLanguage : kind.pattern.Matches piece) : PartsWords piece rest := by
  cases kind with
  | number form =>
      intro _
      exact ends.word rfl
  | keyword word =>
      intro _
      exact ends.word rfl
  | identifier =>
      intro _
      exact ends.word rfl
  | trivia form =>
      rcases Decidable.em (form = .lineComment ∧ rest = []) with ⟨-, rfl⟩ | goesOn
      · exact partsWords_nil_right piece
      · have closed : form = .lineComment → piece.getLast? = some '\n' := by
          rintro rfl
          rcases ends.line rfl with feed | empty
          · exact feed
          · exact absurd ⟨rfl, empty⟩ goesOn
        rcases Trivia.exists_closingMark_of_matches inLanguage closed with ⟨last, mark, lastIs⟩
        exact partsWords_of_getLast? lastIs (Trivia.isWordChar_eq_false_of_mem_closingMarks mark)
  | punctuation form =>
      rw [pattern, Pattern.matches_spelling] at inLanguage
      subst inLanguage
      exact partsWords_of_getLast? rfl (by cases form <;> rfl)
  | quoted form =>
      rcases QuotedForm.exists_quote_of_matches inLanguage with quote | quote
      · exact partsWords_of_getLast? quote rfl
      · exact partsWords_of_getLast? quote rfl
  | operator sign =>
      rw [pattern, Pattern.matches_spelling] at inLanguage
      subst inLanguage
      intro inWord
      have noWord : sign.spelling.getLast?.any isWordChar = false := by cases sign <;> decide
      rw [noWord] at inWord
      contradiction

theorem EndsBefore.append (ends : kind.EndsBefore piece rest) (nonempty : rest ≠ [])
    (tail : List Char) : kind.EndsBefore piece (rest ++ tail) := by
  cases rest with
  | nil => contradiction
  | cons first later =>
      refine ⟨ends.word, ends.spaces, ?_⟩
      intro isLine
      exact Or.inl ((ends.line isLine).resolve_right nonempty)

/-- What is recognised in front of a rest is not carried on by it. -/
theorem endsBefore_of_lexeme? (found : kind.lexeme? (piece ++ rest) = some piece) :
    kind.EndsBefore piece rest := by
  refine ⟨?_, ?_, ?_⟩
  · intro bounded
    rcases ((fits_iff_of_wordBounded bounded).mp (fits_of_lexeme? found)).2 with
      ⟨behind, parts, stops⟩
    rw [List.append_cancel_left parts]
    exact stops
  · rintro rfl
    exact (Trivia.spaces?_append_eq_some_iff.mp found).2
  · rintro rfl
    exact (Trivia.lineComment?_append_eq_some_iff.mp found).2

theorem partsWords_of_lexeme? (found : kind.lexeme? (piece ++ rest) = some piece) :
    PartsWords piece rest :=
  (endsBefore_of_lexeme? found).partsWords (fits_of_lexeme? found).2.1

section Cut

variable {front : List Char}

/-- Whether a piece fits at the start of a text is decided in front of any place at which no word
goes on. -/
theorem fits_append_iff (within : piece <+: front) (parts : PartsWords front rest) :
    kind.Fits (front ++ rest) piece ↔ kind.Fits front piece := by
  rcases within with ⟨more, rfl⟩
  have starts_iff : Starts piece (piece ++ more ++ rest) ↔ Starts piece (piece ++ more) := by
    simp [Starts]
  cases bounded : kind.isWordBounded with
  | false =>
      rw [fits_iff_of_notWordBounded bounded, fits_iff_of_notWordBounded bounded, starts_iff]
  | true =>
      rw [fits_iff_of_wordBounded bounded, fits_iff_of_wordBounded bounded]
      apply and_congr_right
      intro inLanguage
      have inWord := any_getLast?_of_matches bounded inLanguage
      simp only [List.append_assoc, List.append_cancel_left_eq, exists_eq_left']
      cases more with
      | nil =>
          rw [List.append_nil] at parts
          simpa using parts inWord
      | cons first later => exact Iff.rfl

theorem lexeme?_of_append (found : kind.lexeme? (front ++ rest) = some piece)
    (within : piece <+: front) (parts : PartsWords front rest) :
    kind.lexeme? front = some piece := by
  rcases takes_iff_lexeme?.mpr found with ⟨fits, extremal⟩
  apply takes_iff_lexeme?.mp
  refine ⟨(fits_append_iff within parts).mp fits, ?_⟩
  intro other otherFits
  exact extremal other ((fits_append_iff otherFits.1.2 parts).mpr otherFits)

theorem lexeme?_eq_none_of_append (fails : kind.lexeme? (front ++ rest) = none)
    (parts : PartsWords front rest) : kind.lexeme? front = none := by
  rw [Option.eq_none_iff_forall_not_mem]
  intro piece found
  have fits := fits_of_lexeme? found
  rcases exists_lexeme?_of_fits ((fits_append_iff fits.1.2 parts).mpr fits) with
    ⟨recognised, recognisedFound, -⟩
  rw [fails] at recognisedFound
  contradiction

end Cut

theorem lexeme?_append_of_takesShortest (shortest : kind.takesShortest = true)
    (alone : kind.lexeme? piece = some piece) (parts : PartsWords piece rest) :
    kind.lexeme? (piece ++ rest) = some piece := by
  rcases takes_iff_lexeme?.mpr alone with ⟨fitsAlone, extremal⟩
  have fits := (fits_append_iff (List.prefix_refl piece) parts).mpr fitsAlone
  apply takes_iff_lexeme?.mp
  refine ⟨fits, ?_⟩
  intro other otherFits
  rw [if_pos shortest]
  -- a shorter piece would fit without the rest as well
  rcases Nat.le_total piece.length other.length with longer | shorter
  · exact longer
  · have within := List.prefix_of_prefix_length_le otherFits.1.2 fits.1.2 shorter
    have compared := extremal other ((fits_append_iff within parts).mp otherFits)
    rwa [if_pos shortest] at compared

/-- What is recognised by itself is recognised in front of every rest that does not carry it on. -/
theorem lexeme?_append (alone : kind.lexeme? piece = some piece)
    (ends : kind.EndsBefore piece rest) : kind.lexeme? (piece ++ rest) = some piece := by
  have fitsAlone := fits_of_lexeme? alone
  have parts := ends.partsWords fitsAlone.2.1
  cases determined : kind.isDetermined with
  | true =>
      apply (fits_iff_lexeme? determined).mp
      exact (fits_append_iff (List.prefix_refl piece) parts).mpr fitsAlone
  | false =>
      unfold isDetermined at determined
      split at determined
      · exact lexeme?_append_of_takesShortest rfl alone parts
      · exact Trivia.lineComment?_append_eq_some_iff.mpr ⟨alone, ends.line rfl⟩
      · have spaces := Trivia.matches_spaces.mp fitsAlone.2.1
        exact Trivia.spaces?_append_eq_some_iff.mpr ⟨spaces, ends.spaces rfl⟩
      · exact lexeme?_append_of_takesShortest rfl alone parts
      · contradiction

/-- What is recognised in front of one rest is recognised in front of every rest that does not carry
it on. -/
theorem lexeme?_append_of_append {tail : List Char}
    (found : kind.lexeme? (piece ++ rest) = some piece) (ends : kind.EndsBefore piece tail) :
    kind.lexeme? (piece ++ tail) = some piece := by
  apply lexeme?_append ?_ ends
  exact lexeme?_of_append found (List.prefix_refl piece) (partsWords_of_lexeme? found)

theorem fitsAfter_append {previous : Option UInt8} {front : List Char} (nonempty : front ≠ [])
    (rest : List Char) :
    kind.fitsAfter previous (front ++ rest) = kind.fitsAfter previous front := by
  cases front with
  | nil => contradiction
  | cons first later =>
      have sameSign :
          NumberForm.sign (first :: later ++ rest) = NumberForm.sign (first :: later) := by
        unfold NumberForm.sign
        split <;> simp_all
      rw [fitsAfter, fitsAfter, sameSign]

end Kind

namespace Lexeme

variable {previous : Option UInt8} {text front rest : List Char} {lexeme : Lexeme}

/-- The lexeme that is picked is one that its kind recognises where no kind before it does. -/
theorem first?_eq_some_iff :
    first? previous text = some lexeme ↔
      lexeme.kind.lexemeAfter? previous text = some lexeme.text ∧
        ∀ kind : Kind, kind.rank < lexeme.kind.rank → kind.lexemeAfter? previous text = none := by
  constructor
  · intro found
    refine ⟨lexemeAfter?_of_first?_eq_some found, ?_⟩
    intro kind before
    exact lexemeAfter?_eq_none_of_rank_lt found before
  · rintro ⟨recognised, earlierFail⟩
    cases first : first? previous text with
    | none =>
        rw [first?_eq_none_iff.mp first lexeme.kind] at recognised
        contradiction
    | some winner =>
        have winnerFound := lexemeAfter?_of_first?_eq_some first
        have order : winner.kind.rank ≤ lexeme.kind.rank := rank_le_of_lexemeAfter? first recognised
        have notBefore : ¬winner.kind.rank < lexeme.kind.rank := by
          intro before
          rw [earlierFail winner.kind before] at winnerFound
          contradiction
        have sameKind : winner.kind = lexeme.kind := Kind.rank_injective (by omega)
        rw [sameKind, recognised] at winnerFound
        rcases winner with ⟨winnerKind, winnerText⟩
        rcases lexeme with ⟨kind, text⟩
        simp only [Option.some.injEq] at sameKind winnerFound
        rw [sameKind, winnerFound]

theorem partsWords_of_first? (found : first? previous (lexeme.text ++ rest) = some lexeme) :
    PartsWords lexeme.text rest :=
  Kind.partsWords_of_lexeme?
    (Kind.lexemeAfter?_eq_some_iff.mp (lexemeAfter?_of_first?_eq_some found)).2

/-- A lexeme is picked as before where the text is cut off behind it and no word lies across the
cut.
-/
theorem first?_of_append (found : first? previous (front ++ rest) = some lexeme)
    (within : lexeme.text <+: front) (parts : PartsWords front rest) :
    first? previous front = some lexeme := by
  have nonempty : front ≠ [] := by
    rintro rfl
    exact (first?_starts found).1 (List.prefix_nil.mp within)
  rcases first?_eq_some_iff.mp found with ⟨recognised, earlierFail⟩
  rcases Kind.lexemeAfter?_eq_some_iff.mp recognised with ⟨fitsAfter, lexemeFound⟩
  apply first?_eq_some_iff.mpr
  constructor
  · apply Kind.lexemeAfter?_eq_some_iff.mpr
    rw [Kind.fitsAfter_append nonempty] at fitsAfter
    exact ⟨fitsAfter, Kind.lexeme?_of_append lexemeFound within parts⟩
  · intro kind before
    have fails := earlierFail kind before
    rw [Kind.lexemeAfter?, Kind.fitsAfter_append nonempty] at fails
    rw [Kind.lexemeAfter?]
    split
    next allowed =>
        rw [if_pos allowed] at fails
        exact Kind.lexeme?_eq_none_of_append fails parts
    · rfl

end Lexeme

end Lexis
