import Lexis.Proofs.Gaps
import Lexis.Proofs.Readings

/-!
# What the byte before a lexeme decides

A kind looks back at one byte and at nothing else of the text in front of it. The byte tells whether
the text goes on inside a word, and whether a sign stands behind an operand and is therefore an
operator. Bytes that end no operand forbid nothing, so behind each of them a text is read in the
same way, which is the way it is read when nothing stands in front of it. Where no word lies across
a cut, the sign is the only thing that the byte can change.

Words, numbers and closing brackets end with a byte that shows them to be operands. Quoted literals
do not: they end with a quote, which is no such byte. So a sign directly behind an operand is an
operator unless the operand is a quoted literal.
-/

namespace Lexis

/-! ## Reading behind different bytes -/

section Congruence

variable {previous other : Option UInt8} {text : List Char}

theorem Lexeme.first?_congr
    (same : ∀ kind : Kind, kind.lexemeAfter? previous text = kind.lexemeAfter? other text) :
    first? previous text = first? other text := by
  simp only [first?, same]

theorem lex_congr (same : Lexeme.first? previous text = Lexeme.first? other text) :
    lex previous text = lex other text := by
  cases found : Lexeme.first? previous text with
  | none => rw [lex_of_first?_eq_none found, lex_of_first?_eq_none (same.symm.trans found)]
  | some lexeme => rw [lex_of_first?_eq_some found, lex_of_first?_eq_some (same.symm.trans found)]

theorem Lexeme.first?_of_noOperand (noOperand : previous.any mayEndOperand = false)
    (text : List Char) : first? previous text = first? none text := by
  apply first?_congr
  intro kind
  rw [Kind.lexemeAfter?_of_noOperand noOperand, Kind.lexemeAfter?_of_noOperand rfl]

/-- Behind a byte that ends no operand a text is read as if nothing stood in front of it. -/
theorem lex_of_noOperand (noOperand : previous.any mayEndOperand = false) (text : List Char) :
    lex previous text = lex none text :=
  lex_congr (Lexeme.first?_of_noOperand noOperand text)

end Congruence

/-! ## Signs behind operands -/

namespace Kind

variable {kind : Kind} {before text piece : List Char}

/-- Kinds whose lexemes end an operand: identifiers, literals, and the brackets that close a group
or an index. -/
def isOperand (kind : Kind) : Bool :=
  kind = .identifier || kind.isLiteral || kind = .punctuation .closeParen ||
    kind = .punctuation .closeBracket

theorem any_mayEndOperand_of_isWordByte {byte : Option UInt8}
    (inWord : byte.any isWordByte = true) : byte.any mayEndOperand = true := by
  cases byte with
  | none => contradiction
  | some byte =>
      rw [Option.any_some] at inWord ⊢
      simp [mayEndOperand, inWord]

/-- Every operand but a quoted literal ends with a byte that shows it to be one. -/
theorem any_lastByte?_of_isOperand (operand : kind.isOperand = true)
    (inLanguage : kind.pattern.Matches text) :
    (∃ form, kind = .quoted form) ∨ (Text.lastByte? text).any mayEndOperand = true := by
  have ofWord (bounded : kind.isWordBounded = true) :
      (Text.lastByte? text).any mayEndOperand = true := by
    apply any_mayEndOperand_of_isWordByte
    rw [any_isWordByte_lastByte?]
    exact any_getLast?_of_matches bounded inLanguage
  cases kind with
  | number form => exact Or.inr (ofWord rfl)
  | keyword word => exact Or.inr (ofWord rfl)
  | identifier => exact Or.inr (ofWord rfl)
  | quoted form => exact Or.inl ⟨form, rfl⟩
  | punctuation form =>
      right
      rw [pattern, Pattern.matches_spelling] at inLanguage
      rw [inLanguage]
      cases form with
      | closeParen => decide
      | closeBracket => decide
      | openParen => contradiction
      | openCurly => contradiction
      | closeCurly => contradiction
      | openBracket => contradiction
      | semicolon => contradiction
      | colon => contradiction
      | comma => contradiction
  | trivia form => contradiction
  | operator sign => contradiction

theorem rivals_plus : rivals '+' = [.number .scientific, .operator .plus] := by
  decide

theorem rivals_minus : rivals '-' = [.number .scientific, .operator .minus] := by
  decide

/-- Behind a byte that ends an operand, what starts with a sign is the sign as an operator. -/
theorem eq_operator_of_sign {previous : Option UInt8} (operand : previous.any mayEndOperand = true)
    (signed : NumberForm.sign text ≠ [])
    (found : kind.lexemeAfter? previous text = some piece) :
    kind = .operator .plus ∨ kind = .operator .minus := by
  have notScientific : kind ≠ .number .scientific := by
    rintro rfl
    have fits := (lexemeAfter?_eq_some_iff.mp found).1
    simp [fitsAfter, operand, signed] at fits
  rcases sign_ne_nil_iff.mp signed with ⟨later, rfl | rfl⟩
  · have rival := mem_rivals_of_lexemeAfter? found
    rw [rivals_plus] at rival
    simp only [List.mem_cons, notScientific, List.not_mem_nil, or_false, false_or] at rival
    exact Or.inl rival
  · have rival := mem_rivals_of_lexemeAfter? found
    rw [rivals_minus] at rival
    simp only [List.mem_cons, notScientific, List.not_mem_nil, or_false, false_or] at rival
    exact Or.inr rival

/-- A word-bounded kind that opens with no word character opens with a sign. -/
theorem eq_scientific_of_opens {first : Char} (bounded : kind.isWordBounded = true)
    (opening : kind.opens first = true) (notWord : isWordChar first = false) :
    kind = .number .scientific ∧ (first = '+' ∨ first = '-') := by
  have notAlpha : first.isAlpha = false := by
    rw [Bool.eq_false_iff]
    intro letter
    rw [isWordChar_of_isAlpha letter] at notWord
    contradiction
  have notDigit : first.isDigit = false := by
    rw [Bool.eq_false_iff]
    intro digit
    rw [isWordChar_of_isDigit digit] at notWord
    contradiction
  have member : first ∈ kind.openingMarks := by
    simpa [opens, notAlpha, notDigit] using opening
  cases kind with
  | number form =>
      cases form with
      | scientific => exact ⟨rfl, by simpa [openingMarks] using member⟩
      | octal => contradiction
      | float => contradiction
      | double => contradiction
      | int => contradiction
      | hex => contradiction
      | binary => contradiction
  | keyword word => contradiction
  | identifier => contradiction
  | trivia form => contradiction
  | punctuation form => contradiction
  | quoted form => contradiction
  | operator sign => contradiction

/-- Where no word lies across a cut, a kind recognises behind it what it recognises anywhere, but
for a signed number behind an operand. -/
theorem lexemeAfter?_eq_lexeme? (parts : PartsWords before text)
    (unsigned : kind = .number .scientific → (Text.lastByte? before).any mayEndOperand = true →
      NumberForm.sign text = []) :
    kind.lexemeAfter? (Text.lastByte? before) text = kind.lexeme? text := by
  cases allowed : kind.fitsAfter (Text.lastByte? before) text with
  | true => rw [lexemeAfter?, if_pos allowed]
  | false =>
      rw [lexemeAfter?, if_neg (by simp [allowed]), eq_comm, Option.eq_none_iff_forall_not_mem]
      intro piece found
      simp only [fitsAfter, Bool.and_eq_false_iff, Bool.not_eq_false', Bool.and_eq_true,
        decide_eq_true_eq, bne_iff_ne] at allowed
      rcases allowed with ⟨bounded, inWord⟩ | ⟨⟨scientific, operand⟩, signed⟩
      · cases text with
        | nil => exact (lexeme?_starts found).1 (List.prefix_nil.mp (lexeme?_starts found).2)
        | cons first later =>
            have notWord : isWordChar first = false := by
              rw [any_isWordByte_lastByte?] at inWord
              exact parts inWord
            rcases eq_scientific_of_opens bounded (opens_of_lexeme? found) notWord with
              ⟨scientific, isSign⟩
            have noSign := unsigned scientific (any_mayEndOperand_of_isWordByte inWord)
            rcases isSign with rfl | rfl
            · contradiction
            · contradiction
      · exact signed (unsigned scientific operand)

end Kind

/-! ## Signs in front of numbers -/

namespace NumberForm

theorem sign_append_of_ne_nil {front : List Char} (nonempty : front ≠ []) (rest : List Char) :
    sign (front ++ rest) = sign front := by
  cases front with
  | nil => contradiction
  | cons first later =>
      unfold sign
      split <;> simp_all

/-- A number in scientific notation takes a sign in front of it if it has none. -/
theorem scientific?_sign {mark : Char} (isSign : mark = '+' ∨ mark = '-') (rest : List Char) :
    scientific? (mark :: rest) =
      if sign rest = [] then (scientific? rest).map (mark :: ·) else none := by
  have signIs : sign (mark :: rest) = [mark] := by
    rcases isSign with rfl | rfl
    · rfl
    · rfl
  split
  next unsigned =>
      simp only [scientific?, signIs, unsigned, List.length_singleton, List.drop_succ_cons,
        List.drop_zero, List.length_nil, List.nil_append, List.cons_append]
      split
      · rfl
      · rw [Option.map_map]
        rfl
  next signed =>
      rcases Kind.sign_ne_nil_iff.mp signed with ⟨later, rfl | rfl⟩
      · simp [scientific?, signIs, digits]
      · simp [scientific?, signIs, digits]

end NumberForm

namespace Lexeme

/-- Nothing that may open with a digit or a sign comes before scientific notation. -/
theorem first?_of_scientific {previous : Option UInt8} {text piece : List Char}
    (found : (Kind.number .scientific).lexemeAfter? previous text = some piece) :
    first? previous text = some ⟨.number .scientific, piece⟩ := by
  apply first?_eq_some_iff.mpr
  refine ⟨found, ?_⟩
  intro kind before
  rw [Option.eq_none_iff_forall_not_mem]
  intro other otherFound
  cases text with
  | nil =>
      have starts := Kind.lexemeAfter?_starts found
      exact starts.1 (List.prefix_nil.mp starts.2)
  | cons first later =>
      have rival := Kind.mem_rivals_of_lexemeAfter? otherFound
      have opening := Kind.mem_rivals_iff.mp (Kind.mem_rivals_of_lexemeAfter? found)
      simp only [Kind.opens, Kind.opensWithLetter, Kind.opensWithDigit, Kind.openingMarks,
        Bool.false_and, Bool.false_or, Bool.true_and, Bool.or_eq_true, decide_eq_true_eq,
        List.mem_cons, List.not_mem_nil, or_false] at opening
      have beforeScientific : kind.rank < (Kind.number .scientific).rank := before
      rcases opening with digit | rfl | rfl
      · have noneBefore (form : NumberForm) :
            ¬(Kind.number form).rank < (Kind.number .scientific).rank := by
          cases form <;> decide
        rcases Kind.exists_number_of_mem_rivals digit rival with ⟨form, rfl⟩
        exact noneBefore form beforeScientific
      · rw [Kind.rivals_plus, List.mem_pair] at rival
        rcases rival with rfl | rfl
        · exact absurd beforeScientific (Nat.lt_irrefl _)
        · exact absurd beforeScientific (by decide)
      · rw [Kind.rivals_minus, List.mem_pair] at rival
        rcases rival with rfl | rfl
        · exact absurd beforeScientific (Nat.lt_irrefl _)
        · exact absurd beforeScientific (by decide)

end Lexeme

/-! ## Signs between tokens -/

namespace Reading

variable {before rest : List Char} {operand sign : Lexeme} {later : List Lexeme}

theorem sign_behind_operand (reading : Reading before (operand :: sign :: later) rest)
    (isOperand : operand.kind.isOperand = true) (signed : NumberForm.sign sign.text ≠ []) :
    (∃ form, operand.kind = .quoted form) ∨
      sign.kind = .operator .plus ∨ sign.kind = .operator .minus := by
  cases reading with
  | pick operandFound goesOn =>
      have recognised := Lexeme.lexemeAfter?_of_first?_eq_some operandFound
      have inLanguage :=
        (Kind.fits_of_lexeme? (Kind.lexemeAfter?_eq_some_iff.mp recognised).2).2.1
      rcases Kind.any_lastByte?_of_isOperand isOperand inLanguage with quoted | ends
      · exact Or.inl quoted
      · right
        cases goesOn with
        | pick signFound _ =>
            rw [Text.lastByte?_append (Lexeme.first?_starts operandFound).1] at signFound
            refine Kind.eq_operator_of_sign ends ?_
              (Lexeme.lexemeAfter?_of_first?_eq_some signFound)
            rcases Kind.sign_ne_nil_iff.mp signed with ⟨others, signText | signText⟩
            · simp [signText, NumberForm.sign]
            · simp [signText, NumberForm.sign]

end Reading

namespace Source

/-- What starts with a sign and directly follows an operand is an operator, unless the operand is a
quoted literal. -/
theorem sign_directly_behind_operand {source : Source} {tokens earlier later : List Token}
    {operand sign : Token} (complete : source.allTokens = .ok tokens)
    (parts : tokens = earlier ++ operand :: sign :: later)
    (isOperand : operand.kind.isOperand = true)
    (signed : NumberForm.sign sign.value.toList ≠ []) :
    (∃ form, operand.kind = .quoted form) ∨
      sign.kind = .operator .plus ∨ sign.kind = .operator .minus := by
  have reading := (reading_of_allTokens_eq_ok complete).1
  rw [parts, List.map_append, List.map_cons, List.map_cons] at reading
  exact reading.of_append.2.sign_behind_operand isOperand signed

/-- In `a[0]-1e5` the sign directly behind the closing bracket is an operator. -/
theorem sign_directly_behind_operand_of_index :
    let operand : Token := ⟨.punctuation .closeBracket, "]", ⟨⟨3, "s"⟩, ⟨4, "s"⟩⟩, 1, 3⟩
    let sign : Token := ⟨.operator .minus, "-", ⟨⟨4, "s"⟩, ⟨5, "s"⟩⟩, 1, 4⟩
    ∃ tokens earlier later, allTokens { file := "s", content := "a[0]-1e5" } = .ok tokens ∧
      tokens = earlier ++ operand :: sign :: later ∧ operand.kind.isOperand = true ∧
      NumberForm.sign sign.value.toList ≠ [] ∧
      ((∃ form, operand.kind = .quoted form) ∨
        sign.kind = .operator .plus ∨ sign.kind = .operator .minus) := by
  intro operand sign
  let earlier : List Token :=
    [⟨.identifier, "a", ⟨⟨0, "s"⟩, ⟨1, "s"⟩⟩, 1, 0⟩,
      ⟨.punctuation .openBracket, "[", ⟨⟨1, "s"⟩, ⟨2, "s"⟩⟩, 1, 1⟩,
      ⟨.number .int, "0", ⟨⟨2, "s"⟩, ⟨3, "s"⟩⟩, 1, 2⟩]
  let later : List Token := [⟨.number .scientific, "1e5", ⟨⟨5, "s"⟩, ⟨8, "s"⟩⟩, 1, 5⟩]
  have complete : allTokens { file := "s", content := "a[0]-1e5" } =
      .ok (earlier ++ operand :: sign :: later) := by decide +kernel
  have isOperand : operand.kind.isOperand = true := by decide
  have signed : NumberForm.sign sign.value.toList ≠ [] := by decide
  exact ⟨_, earlier, later, complete, rfl, isOperand, signed,
    sign_directly_behind_operand complete rfl isOperand signed⟩

/-- In `"a"+1e5` the sign directly behind the string, which is an operand, is part of the number. -/
theorem signed_number_behind_string :
    ∃ operand number, allTokens { file := "s", content := "\"a\"+1e5" } = .ok [operand, number] ∧
      operand.kind.isOperand = true ∧ operand.stop = number.start ∧
      number.kind = .number .scientific ∧ NumberForm.sign number.value.toList ≠ [] :=
  ⟨⟨.quoted .string, "\"a\"", ⟨⟨0, "s"⟩, ⟨3, "s"⟩⟩, 1, 0⟩,
    ⟨.number .scientific, "+1e5", ⟨⟨3, "s"⟩, ⟨7, "s"⟩⟩, 1, 3⟩, by decide +kernel, by decide, rfl,
    rfl, by decide⟩

end Source

end Lexis
