import Lexis.Proofs.Blanks

/-!
# Spaces that are put in

A space is put in at the end of a lexeme. What stands in front of it is read as before, because the
text is respaced there and a space carries on no lexeme but a run of spaces or an open line comment.
What stands behind it is read as if nothing stood in front of it. That makes a difference in one
place: a sign of addition or subtraction behind an operand becomes a part of the number in
scientific notation that directly follows it.
-/

namespace Lexis

/-! ## In front of the space -/

theorem respaced_self (lexemes : List Lexeme) :
    Respaced lexemes (lexemes.flatMap Lexeme.text) := by
  induction lexemes with
  | nil => exact .finish
  | cons lexeme later ih => exact .keep lexeme ih

theorem respaced_insert (earlier later : List Lexeme) :
    Respaced (earlier ++ later)
      (earlier.flatMap Lexeme.text ++ ' ' :: later.flatMap Lexeme.text) := by
  induction earlier with
  | nil =>
      cases later with
      | nil => exact .trail
      | cons lexeme others => exact .insert (respaced_self _)
  | cons lexeme others ih =>
      have kept := Respaced.keep lexeme ih
      simpa using kept

/-- A line comment that lacks its line feed takes a space behind it. -/
theorem lexSignificant_openLine_space {piece : List Char}
    (inLanguage : (Pattern.ofTrivia .lineComment).Matches piece)
    (isOpen : piece.getLast? ≠ some '\n') (previous : Option UInt8) :
    lexSignificant previous (piece ++ [' ']) = lexSignificant none [] := by
  rcases Trivia.matches_lineComment.mp inLanguage with ⟨body, closing, rfl, inLine, closingIs⟩
  have noClosing : closing = [] := by
    rcases closingIs with rfl | rfl
    · rfl
    · simp [List.getLast?_cons] at isOpen
  subst noClosing
  have noFeed : '\n' ∉ body ++ [' '] := by
    rw [List.mem_append, not_or]
    refine ⟨?_, by decide⟩
    intro member
    have notFeed := List.all_eq_true.mp inLine _ member
    simp at notFeed
  let comment : Lexeme := ⟨.trivia .lineComment, '/' :: '/' :: (body ++ [' '])⟩
  have recognised : comment.kind.lexeme? (comment.text ++ []) = some comment.text := by
    rw [List.append_nil]
    change some ('/' :: '/' :: Text.firstLine (body ++ [' '])) = some _
    rw [Text.firstLine_of_notMem noFeed]
  have found := Lexeme.first?_of_isTrivia rfl recognised previous
  have commentIs : '/' :: '/' :: (body ++ []) ++ [' '] = comment.text ++ [] := by simp [comment]
  rw [commentIs, lexSignificant_of_isTrivia found rfl, lexSignificant_nil, lexSignificant_nil]

namespace Reading

variable {before : List Char} {lexeme : Lexeme} {earlier later : List Lexeme}

/-- A comment or blank in front of a space is read as part of what carries no meaning. -/
theorem lexSignificant_trivia_space (reading : Reading before (lexeme :: later) [])
    (trivia : lexeme.kind.isTrivia = true) (previous : Option UInt8) :
    lexSignificant previous (lexeme.text ++ ' ' :: later.flatMap Lexeme.text) =
      lexSignificant none (later.flatMap Lexeme.text) := by
  have inLanguage := (Kind.fits_of_lexeme? reading.lexeme?_eq).2.1
  have recognised := reading.lexeme?_eq
  rcases Decidable.em (lexeme.kind = .trivia .spaces) with isSpaces | notSpaces
  · rw [isSpaces] at inLanguage
    exact lexSignificant_spaces_append_space previous (Trivia.matches_spaces.mp inLanguage).2 _
  · rcases Decidable.em (lexeme.kind = .trivia .lineComment ∧ lexeme.text.getLast? ≠ some '\n') with
      ⟨isLine, isOpen⟩ | closed
    · -- the comment takes the space, and nothing is left
      have lastOne : later = [] := (reading.closes isLine).resolve_left isOpen
      subst lastOne
      rw [isLine] at inLanguage
      exact lexSignificant_openLine_space inLanguage isOpen previous
    · have ends : lexeme.kind.EndsBefore lexeme.text (' ' :: later.flatMap Lexeme.text) := by
        refine ⟨fun _ => rfl, fun isSpaces => absurd isSpaces notSpaces, ?_⟩
        intro isLine
        left
        by_contra isOpen
        exact closed ⟨isLine, isOpen⟩
      have found := Lexeme.first?_of_isTrivia trivia
        (Kind.lexeme?_append_of_append recognised ends) previous
      rw [lexSignificant_of_isTrivia found trivia, lexSignificant_space]

/-- In front of a space that is put in, a text is read as before. -/
theorem lexSignificant_insert (reading : Reading before (earlier ++ later) []) :
    lexSignificant (Text.lastByte? before)
        (earlier.flatMap Lexeme.text ++ ' ' :: later.flatMap Lexeme.text) =
      (Lexeme.significant earlier ++ (lexSignificant none (later.flatMap Lexeme.text)).1,
        (lexSignificant none (later.flatMap Lexeme.text)).2) := by
  induction earlier generalizing before with
  | nil => exact lexSignificant_space _ _
  | cons lexeme others ih =>
      have nonempty := reading.text_ne_nil lexeme List.mem_cons_self
      have readBehind := ih reading.tail
      rw [Text.lastByte?_append nonempty] at readBehind
      rw [List.flatMap_cons, List.append_assoc]
      cases trivia : lexeme.kind.isTrivia with
      | false =>
          have found := (respaced_insert others later).first?_eq reading trivia
          rw [lexSignificant_of_significant found trivia, readBehind,
            Lexeme.significant_cons trivia, List.cons_append]
      | true =>
          rw [Lexeme.significant_cons_of_isTrivia trivia]
          cases others with
          | nil => exact reading.lexSignificant_trivia_space trivia _
          | cons next more =>
              have front : Reading before (lexeme :: next :: more) [] := reading.of_append.1.cutOff
              have found : Lexeme.first? (Text.lastByte? before) (lexeme.text ++
                  ((next :: more).flatMap Lexeme.text ++ ' ' :: later.flatMap Lexeme.text)) =
                    some lexeme := by
                apply front.first?_of_isTrivia trivia
                intro empty
                contradiction
              rw [lexSignificant_of_isTrivia found trivia, readBehind]

end Reading

/-! ## Behind the space -/

namespace Lexeme

/-- A sign of addition or subtraction and a number in scientific notation that has no sign. -/
def signsNumber (sign number : Lexeme) : Bool :=
  (sign.kind = .operator .plus || sign.kind = .operator .minus) &&
    number.kind = .number .scientific && NumberForm.sign number.text = []

/-- Where lexemes begin with a sign and a number that takes it, the two are joined. -/
def joinSign : List Lexeme → List Lexeme
  | sign :: number :: later =>
      if sign.signsNumber number then
        { kind := .number .scientific, text := sign.text ++ number.text } :: later
      else
        sign :: number :: later
  | lexemes => lexemes

theorem joinSign_of_signsNumber {sign number : Lexeme} (joins : sign.signsNumber number = true)
    (later : List Lexeme) :
    joinSign (sign :: number :: later) =
      { kind := .number .scientific, text := sign.text ++ number.text } :: later := by
  rw [joinSign, if_pos joins]

theorem joinSign_eq_self {lexemes : List Lexeme}
    (apart : ∀ sign number later, lexemes = sign :: number :: later →
      sign.signsNumber number = false) : joinSign lexemes = lexemes := by
  unfold joinSign
  split
  next sign number later =>
      rw [if_neg (by simp [apart sign number later rfl])]
  · rfl

end Lexeme

namespace Reading

variable {before piece : List Char} {sign number lexeme : Lexeme} {later lexemes : List Lexeme}

/-- The text of a sign of addition or subtraction. -/
theorem exists_mark_of_sign (reading : Reading before (sign :: later) [])
    (isSign : sign.kind = .operator .plus ∨ sign.kind = .operator .minus) :
    ∃ mark, (mark = '+' ∨ mark = '-') ∧ sign.text = [mark] := by
  have recognised := reading.lexeme?_eq
  rcases isSign with isPlus | isMinus
  · rw [isPlus] at recognised
    exact ⟨'+', Or.inl rfl, (spelled?_eq_some_iff.mp recognised).1.symm⟩
  · rw [isMinus] at recognised
    exact ⟨'-', Or.inr rfl, (spelled?_eq_some_iff.mp recognised).1.symm⟩

/-- A sign and the number that takes it are a number. -/
theorem scientific?_of_signsNumber (reading : Reading before (sign :: number :: later) [])
    (joins : sign.signsNumber number = true) :
    NumberForm.scientific? ((sign :: number :: later).flatMap Lexeme.text) =
      some (sign.text ++ number.text) := by
  simp only [Lexeme.signsNumber, Bool.and_eq_true, Bool.or_eq_true, decide_eq_true_eq] at joins
  rcases joins with ⟨⟨isSign, isNumber⟩, unsigned⟩
  rcases reading.exists_mark_of_sign isSign with ⟨mark, isMark, markIs⟩
  have recognised := reading.tail.lexeme?_eq
  have nonempty := reading.tail.text_ne_nil number List.mem_cons_self
  rw [isNumber, List.append_nil] at recognised
  have numberFound : NumberForm.scientific? (number.text ++ later.flatMap Lexeme.text) =
      some number.text := recognised
  rw [List.flatMap_cons, markIs, List.singleton_append, NumberForm.scientific?_sign isMark,
    List.flatMap_cons, NumberForm.sign_append_of_ne_nil nonempty, if_pos unsigned, numberFound]
  rfl

/-- Where a signed number could be read behind an operand, its sign and the rest of it are read one
after the other. -/
theorem exists_number_of_scientific? (reading : Reading before (sign :: later) [])
    (operand : (Text.lastByte? before).any mayEndOperand = true)
    (signed : NumberForm.sign ((sign :: later).flatMap Lexeme.text) ≠ [])
    (fits : NumberForm.scientific? ((sign :: later).flatMap Lexeme.text) = some piece) :
    ∃ number others, later = number :: others ∧ sign.signsNumber number = true := by
  have readingHere := reading
  cases reading with
  | pick found goesOn =>
      have recognised := Lexeme.lexemeAfter?_of_first?_eq_some found
      rw [List.append_nil, ← List.flatMap_cons] at recognised
      have isSign := Kind.eq_operator_of_sign operand signed recognised
      rcases readingHere.exists_mark_of_sign isSign with ⟨mark, isMark, markIs⟩
      rw [List.flatMap_cons, markIs, List.singleton_append,
        NumberForm.scientific?_sign isMark] at fits
      split at fits
      next unsigned =>
          rcases Option.map_eq_some_iff.mp fits with ⟨numberText, numberFits, -⟩
          have noOperand : (Text.lastByte? (before ++ sign.text)).any mayEndOperand = false := by
            rw [markIs, Text.lastByte?_append (List.cons_ne_nil _ _)]
            rcases isMark with rfl | rfl
            · decide
            · decide
          have numberAfter : (Kind.number .scientific).lexemeAfter?
              (Text.lastByte? (before ++ sign.text)) (later.flatMap Lexeme.text) =
                some numberText := by
            rw [Kind.lexemeAfter?_of_noOperand noOperand]
            exact numberFits
          have numberFirst := Lexeme.first?_of_scientific numberAfter
          cases goesOn with
          | stop _ _ =>
              rw [List.flatMap_nil, Lexeme.first?_nil] at numberFirst
              contradiction
          | @pick _ _ number others numberFound _ =>
              rw [List.flatMap_cons] at numberFirst unsigned
              rw [List.append_nil] at numberFound
              rcases Option.some.inj (numberFirst.symm.trans numberFound) with rfl
              rw [NumberForm.sign_append_of_ne_nil (Lexeme.first?_starts numberFound).1] at unsigned
              refine ⟨_, others, rfl, ?_⟩
              simp [Lexeme.signsNumber, isSign, unsigned]
      · contradiction

/-- A sign and the number that takes it are read as one where nothing stands in front of them. -/
theorem lexSignificant_of_signsNumber (reading : Reading before (sign :: number :: later) [])
    (joins : sign.signsNumber number = true) :
    lexSignificant none ((sign :: number :: later).flatMap Lexeme.text) =
      (⟨.number .scientific, sign.text ++ number.text⟩ :: Lexeme.significant later, []) := by
  let joined : Lexeme := ⟨.number .scientific, sign.text ++ number.text⟩
  have textIs : (sign :: number :: later).flatMap Lexeme.text =
      joined.text ++ later.flatMap Lexeme.text := by simp [joined]
  have found : Lexeme.first? none (joined.text ++ later.flatMap Lexeme.text) = some joined := by
    apply Lexeme.first?_of_scientific
    rw [Kind.lexemeAfter?_of_noOperand rfl, ← textIs]
    exact reading.scientific?_of_signsNumber joins
  have behind : Reading (before ++ joined.text) later [] := by
    simpa [joined] using reading.tail.tail
  have read := behind.lexSignificant_eq
  rw [Text.lastByte?_append (Lexeme.first?_starts found).1] at read
  rw [textIs, lexSignificant_of_significant found rfl, read]

/-- Where no sign is followed by a number that takes it, the byte in front of a text matters to
nothing. -/
theorem first?_none_eq (reading : Reading before lexemes [])
    (parts : PartsWords before (lexemes.flatMap Lexeme.text))
    (apart : ∀ sign number later, lexemes = sign :: number :: later →
      sign.signsNumber number = false) :
    Lexeme.first? none (lexemes.flatMap Lexeme.text) =
      Lexeme.first? (Text.lastByte? before) (lexemes.flatMap Lexeme.text) := by
  apply Lexeme.first?_congr
  intro kind
  rw [Kind.lexemeAfter?_of_noOperand rfl]
  rcases Decidable.em (kind = .number .scientific ∧
    (Text.lastByte? before).any mayEndOperand = true ∧
      NumberForm.sign (lexemes.flatMap Lexeme.text) ≠ []) with ⟨rfl, operand, signed⟩ | free
  · -- a number with this sign would have been read as the sign and a number that takes it
    have notFound : (Kind.number .scientific).lexeme? (lexemes.flatMap Lexeme.text) = none := by
      rw [Option.eq_none_iff_forall_not_mem]
      intro piece fits
      cases lexemes with
      | nil => contradiction
      | cons sign later =>
          rcases reading.exists_number_of_scientific? operand signed fits with
            ⟨number, others, rfl, joins⟩
          rw [apart sign number others rfl] at joins
          contradiction
    rw [Kind.lexemeAfter?, notFound, ite_self]
  · rw [Kind.lexemeAfter?_eq_lexeme? parts]
    intro scientific operand
    by_contra signed
    exact free ⟨scientific, operand, signed⟩

/-- Behind a space the lexemes of a text are read as before, but that a sign at the start is joined
to the number that takes it. -/
theorem lexSignificant_behind (reading : Reading before lexemes [])
    (parts : PartsWords before (lexemes.flatMap Lexeme.text)) :
    lexSignificant none (lexemes.flatMap Lexeme.text) =
      (Lexeme.significant (Lexeme.joinSign lexemes), []) := by
  by_cases apart : ∀ sign number later, lexemes = sign :: number :: later →
    sign.signsNumber number = false
  · rw [Lexeme.joinSign_eq_self apart, ← reading.lexSignificant_eq, lexSignificant, lexSignificant,
      lex_congr (reading.first?_none_eq parts apart)]
  · push Not at apart
    rcases apart with ⟨sign, number, later, rfl, joins⟩
    rw [Bool.ne_false_iff] at joins
    rw [reading.lexSignificant_of_signsNumber joins, Lexeme.joinSign_of_signsNumber joins,
      Lexeme.significant_cons rfl]

end Reading

namespace Source

variable {source : Source} {tokens : List Token} {offset : Nat}

theorem significantTokens_insertSpace (complete : source.allTokens = .ok tokens)
    (reached : source.Reaches offset) :
    ∃ earlier later before rest spaced, tokens = earlier ++ later ∧
      (∀ token ∈ earlier, token.start < offset) ∧ (∀ token ∈ later, offset ≤ token.start) ∧
      cutAt source.content offset = .ok (before, rest) ∧
      significantTokens { source with content := String.ofList (before ++ ' ' :: rest) } =
        .ok spaced ∧
      spaced.map Token.lexeme =
        Lexeme.significant
          (earlier.map Token.lexeme ++ Lexeme.joinSign (later.map Token.lexeme)) := by
  rcases reached.exists_reading with ⟨earlier, later, left, lexed, cut, front, placed⟩
  rcases lex_left_eq_nil_of_allTokens_eq_ok complete with ⟨leftEmpty, tokensAre⟩
  rw [scan, scanFrom_of_lex_eq lexed] at tokensAre
  simp only [Lexeme.place_append] at tokensAre
  rw [lexed] at leftEmpty
  simp only at leftEmpty
  subst leftEmpty
  rw [List.append_nil] at cut front
  have reading : Reading [] (earlier ++ later) [] := by
    have whole := reading_lex [] source.content.toList
    rwa [show Text.lastByte? [] = none from rfl, lexed] at whole
  have behind := reading.of_append.2.lexSignificant_behind front.partsWords
  have read := reading.lexSignificant_insert
  rw [behind] at read
  let spacedSource : Source :=
    { source with
      content := String.ofList (earlier.flatMap Lexeme.text ++ ' ' :: later.flatMap Lexeme.text) }
  have spacedRead : lexSignificant none spacedSource.content.toList =
      (Lexeme.significant (earlier ++ Lexeme.joinSign later), []) := by
    rw [String.toList_ofList, Lexeme.significant_append]
    exact read
  rcases exists_tokens_of_lexSignificant spacedRead with ⟨spaced, spacedComplete, sameLexemes⟩
  refine ⟨_, _, _, _, Token.significant spaced, tokensAre.symm, ?_, ?_, cut,
    significantTokens_of_allTokens spacedComplete, ?_⟩
  · intro token member
    rw [← placed]
    exact Lexeme.start_lt_of_mem_place front.text_ne_nil member
  · intro token member
    rw [← placed]
    exact Lexeme.offset_le_start_of_mem_place member
  · rw [sameLexemes, Lexeme.map_lexeme_place, Lexeme.map_lexeme_place]

/-- Where a space is put in between two tokens, or at an end, of a source that is scanned to its
end, the source is still scanned to its end if it still fits, and the tokens that carry meaning have
the kinds and values that they had; but where a sign of addition or subtraction starts there and a
number in scientific notation without a sign directly follows it, the two become one number. -/
theorem checkedSignificantTokens_insertSpace (complete : source.checkedTokens = .ok (.ok tokens))
    (reached : source.Reaches offset) :
    ∃ earlier later before rest spaced, tokens = earlier ++ later ∧
      (∀ token ∈ earlier, token.start < offset) ∧ (∀ token ∈ later, offset ≤ token.start) ∧
      cutAt source.content offset = .ok (before, rest) ∧
      AnswersUpTo
        (checkedSignificantTokens
          { source with content := String.ofList (before ++ ' ' :: rest) })
        (Text.size source.content.toList + 1) (.ok spaced) ∧
      spaced.map Token.lexeme =
        Lexeme.significant
          (earlier.map Token.lexeme ++ Lexeme.joinSign (later.map Token.lexeme)) := by
  rcases significantTokens_insertSpace (allTokens_of_checkedTokens complete) reached with
    ⟨earlier, later, before, rest, spaced, tokensAre, inFront, behind, cut, spacedComplete, same⟩
  have answers := checkedSignificantTokens_of_complete spacedComplete
  have longer : Text.size (before ++ ' ' :: rest) = Text.size source.content.toList + 1 := by
    have space : (' ' : Char).utf8Size = 1 := rfl
    rw [(cutAt_eq_ok_iff.mp cut).1, Text.size_append, Text.size_append, Text.size_cons, space]
    omega
  rw [String.toList_ofList, longer] at answers
  exact ⟨earlier, later, before, rest, spaced, tokensAre, inFront, behind, cut, answers, same⟩

/-- A space in front of the sign in `x-1e5` joins the sign to the number. -/
theorem checkedSignificantTokens_insertSpace_of_difference :
    let source : Source := { file := "s", content := "x-1e5" }
    let tokens := Lexeme.place "s" .start
      [⟨.identifier, ['x']⟩, ⟨.operator .minus, ['-']⟩, ⟨.number .scientific, ['1', 'e', '5']⟩]
    source.checkedTokens = .ok (.ok tokens) ∧ source.Reaches 1 ∧
      checkedSignificantTokens { source with content := "x -1e5" } =
        .ok (.ok [⟨.identifier, "x", ⟨⟨0, "s"⟩, ⟨1, "s"⟩⟩, 1, 0⟩,
          ⟨.number .scientific, "-1e5", ⟨⟨2, "s"⟩, ⟨6, "s"⟩⟩, 1, 2⟩]) ∧
      ∃ earlier later before rest spaced, tokens = earlier ++ later ∧
        (∀ token ∈ earlier, token.start < 1) ∧ (∀ token ∈ later, 1 ≤ token.start) ∧
        cutAt source.content 1 = .ok (before, rest) ∧
        checkedSignificantTokens { source with content := String.ofList (before ++ ' ' :: rest) } =
          .ok (.ok spaced) ∧
        spaced.map Token.lexeme =
          Lexeme.significant
            (earlier.map Token.lexeme ++ Lexeme.joinSign (later.map Token.lexeme)) := by
  intro source tokens
  have complete : source.checkedTokens = .ok (.ok tokens) := by decide +kernel
  have found : (⟨.operator .minus, "-", ⟨⟨1, "s"⟩, ⟨2, "s"⟩⟩, 1, 1⟩ : Token) ∈
      source.scan.tokens := by decide +kernel
  have reached : source.Reaches 1 := .tokenStart found
  rcases checkedSignificantTokens_insertSpace complete reached with
    ⟨earlier, later, before, rest, spaced, tokensAre, inFront, behind, cut, answers, same⟩
  exact ⟨complete, reached, by decide +kernel, earlier, later, before, rest, spaced, tokensAre,
    inFront, behind, cut, answers.eq_ok (by decide +kernel), same⟩

end Source

end Lexis
