import Lexis.Proofs.Languages

/-!
# Words, numbers and their patterns

Identifiers, reserved words and numbers must end at an edge of a word. Each of their patterns ends
in a word character, so what this asks for is that no word character follows; and this is why at
most one piece at the start of a text can be a lexeme of such a kind. The recognisers look for that
piece directly: they take the whole word, or the words on both sides of a point, or what the parts
of scientific notation leave no choice about. The main statements say that they find the piece
exactly when there is one.
-/

namespace Lexis

/-! ## Runs of characters -/

section Run

variable {inClass : Char → Bool} {run rest text : List Char}

theorem takeWhile_append_of_stop (inRun : run.all inClass = true)
    (stops : rest.head?.any inClass = false) : (run ++ rest).takeWhile inClass = run := by
  rw [List.takeWhile_append_of_pos (by simpa using inRun)]
  cases rest with
  | nil => simp
  | cons first later =>
      have firstStops : inClass first = false := by simpa using stops
      simp [firstStops]

/-- The run at the start of a text is followed by nothing of its class. -/
theorem exists_takeWhile_append (inClass : Char → Bool) (text : List Char) :
    ∃ rest, text = text.takeWhile inClass ++ rest ∧ rest.head?.any inClass = false := by
  refine ⟨text.dropWhile inClass, List.takeWhile_append_dropWhile.symm, ?_⟩
  have stopped := List.head?_dropWhile_not inClass text
  cases head : (text.dropWhile inClass).head? with
  | none => rfl
  | some first =>
      rw [head] at stopped
      simpa using stopped

end Run

section Word

variable {text rest piece : List Char}

theorem word_append_of_stop (inWord : piece.all isWordChar = true)
    (stops : rest.head?.any isWordChar = false) : word (piece ++ rest) = piece :=
  takeWhile_append_of_stop inWord stops

theorem exists_word_append (text : List Char) :
    ∃ rest, text = word text ++ rest ∧ rest.head?.any isWordChar = false :=
  exists_takeWhile_append isWordChar text

theorem all_word (text : List Char) : (word text).all isWordChar = true :=
  List.all_takeWhile

/-- A word character has one byte. -/
theorem size_of_all_isWordChar {text : List Char} (inWord : text.all isWordChar = true) :
    Text.size text = text.length :=
  Text.size_eq_length_iff.mpr fun char member =>
    ascii_of_isWordChar (List.all_eq_true.mp inWord char member)

theorem wordWhere?_eq_none_iff {accepts : List Char → Bool} :
    wordWhere? accepts text = none ↔ accepts (word text) = false := by
  simp [wordWhere?]

end Word

/-! ## Classes of characters -/

theorem isWordChar_of_isDigit {char : Char} (digit : char.isDigit = true) :
    isWordChar char = true := by
  simp [isWordChar, Char.isAlphanum, digit]

theorem isDigit_iff {char : Char} : char.isDigit = true ↔ 48 ≤ char.toNat ∧ char.toNat ≤ 57 := by
  change (decide ('0'.val ≤ char.val) && decide (char.val ≤ '9'.val)) = true ↔ _
  simp only [Bool.and_eq_true, decide_eq_true_eq, UInt32.le_iff_toNat_le]
  exact Iff.rfl

theorem isAlpha_iff {char : Char} : char.isAlpha = true ↔
    65 ≤ char.toNat ∧ char.toNat ≤ 90 ∨ 97 ≤ char.toNat ∧ char.toNat ≤ 122 := by
  change (decide ('A'.val ≤ char.val ∧ char.val ≤ 'Z'.val) ||
    (decide ('a'.val ≤ char.val) && decide (char.val ≤ 'z'.val))) = true ↔ _
  simp only [Bool.or_eq_true, Bool.and_eq_true, decide_eq_true_eq, UInt32.le_iff_toNat_le]
  exact Iff.rfl

theorem isAlpha_eq_false_of_isDigit {char : Char} (digit : char.isDigit = true) :
    char.isAlpha = false := by
  rw [Bool.eq_false_iff]
  intro letter
  have digitRange := isDigit_iff.mp digit
  have letterRange := isAlpha_iff.mp letter
  omega

namespace NumberForm

theorem isDigit_of_isOctalDigit {char : Char} (octal : isOctalDigit char = true) :
    char.isDigit = true := by
  change (decide ('0'.val ≤ char.val) && decide (char.val ≤ '7'.val)) = true at octal
  simp only [Bool.and_eq_true, decide_eq_true_eq, UInt32.le_iff_toNat_le] at octal
  exact isDigit_iff.mpr ⟨octal.1, Nat.le_trans octal.2 (by decide)⟩

theorem isDigit_of_isBinaryDigit {char : Char} (binary : isBinaryDigit char = true) :
    char.isDigit = true := by
  simp only [isBinaryDigit, Bool.or_eq_true, beq_iff_eq] at binary
  rcases binary with rfl | rfl <;> decide

theorem isWordChar_of_isHexDigit {char : Char} (hex : isHexDigit char = true) :
    isWordChar char = true := by
  change (char.isDigit || (decide ('a'.val ≤ char.val) && decide (char.val ≤ 'f'.val)) ||
    (decide ('A'.val ≤ char.val) && decide (char.val ≤ 'F'.val))) = true at hex
  simp only [Bool.or_eq_true, Bool.and_eq_true, decide_eq_true_eq, UInt32.le_iff_toNat_le] at hex
  rcases hex with (digit | lower) | upper
  · exact isWordChar_of_isDigit digit
  · exact isWordChar_of_isAlpha
      (isAlpha_iff.mpr (Or.inr ⟨lower.1, Nat.le_trans lower.2 (by decide)⟩))
  · exact isWordChar_of_isAlpha
      (isAlpha_iff.mpr (Or.inl ⟨upper.1, Nat.le_trans upper.2 (by decide)⟩))

theorem all_isDigit_of_isNumeral {text : List Char} (numeral : isNumeral text = true) :
    text.all Char.isDigit = true := by
  simp only [isNumeral, Bool.and_eq_true] at numeral
  exact numeral.2

theorem ne_nil_of_isNumeral {text : List Char} (numeral : isNumeral text = true) : text ≠ [] := by
  simp only [isNumeral, Bool.and_eq_true, bne_iff_ne] at numeral
  exact numeral.1

theorem all_isWordChar_of_isNumeral {text : List Char} (numeral : isNumeral text = true) :
    text.all isWordChar = true := by
  rw [List.all_eq_true]
  intro char member
  exact isWordChar_of_isDigit
    (List.all_eq_true.mp (all_isDigit_of_isNumeral numeral) char member)

theorem isNumeral_of_isShortNumeral {most : Nat} {text : List Char}
    (short : isShortNumeral most text = true) : isNumeral text = true := by
  simp only [isShortNumeral, Bool.and_eq_true] at short
  exact short.1

theorem isShortNumeral_iff {most : Nat} {text : List Char} :
    isShortNumeral most text = true ↔
      1 ≤ text.length ∧ text.length ≤ most ∧ text.all Char.isDigit = true := by
  simp only [isShortNumeral, isNumeral, Bool.and_eq_true, bne_iff_ne,
    decide_eq_true_eq, ← List.length_pos_iff]
  constructor
  · rintro ⟨⟨positive, digits⟩, short⟩
    exact ⟨positive, short, digits⟩
  · rintro ⟨positive, short, digits⟩
    exact ⟨⟨positive, digits⟩, short⟩

theorem isNumeral_of_isOctal {text : List Char} (octal : isOctal text = true) :
    isNumeral text = true := by
  unfold isOctal at octal
  split at octal
  next later =>
      simp only [Bool.and_eq_true, List.all_eq_true] at octal
      simp only [isNumeral, List.all_cons, Bool.and_eq_true, List.all_eq_true, bne_iff_ne]
      refine ⟨by simp, by decide, ?_⟩
      intro char member
      exact isDigit_of_isOctalDigit (octal.2 char member)
  · contradiction

theorem all_isWordChar_of_isHex {text : List Char} (hex : isHex text = true) :
    text.all isWordChar = true := by
  have laterWord {later : List Char} (digits : later.all isHexDigit = true) :
      later.all isWordChar = true := by
    rw [List.all_eq_true] at digits ⊢
    intro char member
    exact isWordChar_of_isHexDigit (digits char member)
  unfold isHex at hex
  split at hex
  next later =>
      simp only [Bool.and_eq_true] at hex
      simp [laterWord hex.2, isWordChar]
  next later =>
      simp only [Bool.and_eq_true] at hex
      simp [laterWord hex.2, isWordChar]
  · contradiction

theorem all_isWordChar_of_isBinary {text : List Char} (binary : isBinary text = true) :
    text.all isWordChar = true := by
  have laterWord {later : List Char} (digits : later.all isBinaryDigit = true) :
      later.all isWordChar = true := by
    rw [List.all_eq_true] at digits ⊢
    intro char member
    exact isWordChar_of_isDigit (isDigit_of_isBinaryDigit (digits char member))
  unfold isBinary at binary
  split at binary
  next later =>
      simp only [Bool.and_eq_true] at binary
      simp [laterWord binary.2, isWordChar]
  next later =>
      simp only [Bool.and_eq_true] at binary
      simp [laterWord binary.2, isWordChar]
  · contradiction

end NumberForm

theorem Keyword.all_isWordChar_spelling (keyword : Keyword) :
    keyword.spelling.all isWordChar = true := by
  cases keyword <;> decide

/-! ## Edges of words -/

theorem any_getLast?_of_all {text : List Char} (nonempty : text ≠ [])
    (inWord : text.all isWordChar = true) : text.getLast?.any isWordChar = true := by
  rw [List.getLast?_eq_some_getLast nonempty]
  exact List.all_eq_true.mp inWord _ (List.getLast_mem nonempty)

theorem any_getLast?_append {front back : List Char}
    (ends : back.getLast?.any isWordChar = true) :
    (front ++ back).getLast?.any isWordChar = true := by
  rw [List.getLast?_append]
  cases last : back.getLast? with
  | none => simp [last] at ends
  | some char => simpa [last] using ends

theorem NumberForm.any_getLast?_of_isNumeral {text : List Char} (numeral : isNumeral text = true) :
    text.getLast?.any isWordChar = true :=
  any_getLast?_of_all (ne_nil_of_isNumeral numeral) (all_isWordChar_of_isNumeral numeral)

theorem Pattern.any_getLast?_of_matches_decimal {limit : Nat} {text : List Char}
    (inLanguage : (decimal limit).Matches text) : text.getLast?.any isWordChar = true := by
  rcases matches_decimal.mp inLanguage with ⟨whole, part, rfl, -, short⟩
  have ends := NumberForm.any_getLast?_of_isNumeral (NumberForm.isNumeral_of_isShortNumeral short)
  rw [List.append_cons]
  exact any_getLast?_append ends

theorem Pattern.any_getLast?_of_matches_number {form : NumberForm} {text : List Char}
    (inLanguage : (ofNumber form).Matches text) : text.getLast?.any isWordChar = true := by
  cases form with
  | scientific =>
      rcases matches_scientific.mp inLanguage with
        ⟨signed, whole, part, exponent, rfl, -, -, -, letter, powerSigned, power, rfl, -, -,
          numeral⟩
      have ends := NumberForm.any_getLast?_of_isNumeral numeral
      rw [← List.cons_append]
      apply any_getLast?_append
      apply any_getLast?_append
      apply any_getLast?_append
      exact any_getLast?_append ends
  | octal =>
      exact NumberForm.any_getLast?_of_isNumeral
        (NumberForm.isNumeral_of_isOctal (matches_octal.mp inLanguage))
  | float => exact any_getLast?_of_matches_decimal inLanguage
  | double => exact any_getLast?_of_matches_decimal inLanguage
  | int =>
      exact NumberForm.any_getLast?_of_isNumeral
        (NumberForm.isNumeral_of_isShortNumeral (matches_limited_digits.mp inLanguage))
  | hex =>
      have hex := matches_hex.mp inLanguage
      apply any_getLast?_of_all ?_ (NumberForm.all_isWordChar_of_isHex hex)
      rintro rfl
      contradiction
  | binary =>
      have binary := matches_binary.mp inLanguage
      apply any_getLast?_of_all ?_ (NumberForm.all_isWordChar_of_isBinary binary)
      rintro rfl
      contradiction

namespace Kind

/-- Every text of a word-bounded kind ends in a word character. -/
theorem any_getLast?_of_matches {kind : Kind} (bounded : kind.isWordBounded = true)
    {text : List Char} (inLanguage : kind.pattern.Matches text) :
    text.getLast?.any isWordChar = true := by
  cases kind with
  | number form => exact Pattern.any_getLast?_of_matches_number inLanguage
  | keyword word =>
      rw [pattern, Pattern.matches_spelling] at inLanguage
      subst inLanguage
      cases word <;> decide
  | identifier =>
      rcases Pattern.matches_identifier.mp inLanguage with ⟨accepted, inWord⟩
      apply any_getLast?_of_all ?_ inWord
      rintro rfl
      contradiction
  | trivia form => contradiction
  | punctuation form => contradiction
  | quoted form => contradiction
  | operator sign => contradiction

/-- A word-bounded kind fits a piece that matches its pattern exactly where no word character
follows. -/
theorem fits_iff_of_wordBounded {kind : Kind} (bounded : kind.isWordBounded = true)
    {text piece : List Char} :
    kind.Fits text piece ↔
      kind.pattern.Matches piece ∧
        ∃ rest, text = piece ++ rest ∧ rest.head?.any isWordChar = false := by
  have edge_iff {rest : List Char} (inLanguage : kind.pattern.Matches piece) :
      AtWordEdge piece rest ↔ rest.head?.any isWordChar = false := by
    rw [AtWordEdge, any_getLast?_of_matches bounded inLanguage]
    cases rest.head?.any isWordChar <;> simp
  constructor
  · rintro ⟨⟨-, rest, rfl⟩, inLanguage, edge⟩
    refine ⟨inLanguage, rest, rfl, ?_⟩
    have atEdge := edge bounded
    rw [List.drop_left] at atEdge
    exact (edge_iff inLanguage).mp atEdge
  · rintro ⟨inLanguage, rest, rfl, stops⟩
    have nonempty : piece ≠ [] := by
      rintro rfl
      have ends := any_getLast?_of_matches bounded inLanguage
      contradiction
    refine ⟨⟨nonempty, rest, rfl⟩, inLanguage, fun _ => ?_⟩
    rw [List.drop_left]
    exact (edge_iff inLanguage).mpr stops

/-- Where a pattern holds words only, the piece that a word-bounded kind fits is the whole word. -/
theorem fits_iff_wordWhere? {kind : Kind} {accepts : List Char → Bool}
    (bounded : kind.isWordBounded = true)
    (language : ∀ piece, kind.pattern.Matches piece ↔
      accepts piece = true ∧ piece.all isWordChar = true) {text piece : List Char} :
    kind.Fits text piece ↔ wordWhere? accepts text = some piece := by
  rw [fits_iff_of_wordBounded bounded, language, wordWhere?_eq_some_iff]
  constructor
  · rintro ⟨⟨accepted, inWord⟩, rest, rfl, stops⟩
    exact ⟨accepted, word_append_of_stop inWord stops⟩
  · rintro ⟨accepted, rfl⟩
    exact ⟨⟨accepted, all_word text⟩, exists_word_append text⟩

theorem fits_keyword_iff {keyword : Keyword} {text piece : List Char} :
    (Kind.keyword keyword).Fits text piece ↔ keyword.lexeme? text = some piece := by
  apply fits_iff_wordWhere? rfl
  intro piece
  simp only [pattern, Pattern.matches_spelling, beq_iff_eq]
  constructor
  · rintro rfl
    exact ⟨rfl, keyword.all_isWordChar_spelling⟩
  · rintro ⟨spelled, -⟩
    exact spelled

theorem fits_identifier_iff {text piece : List Char} :
    Kind.identifier.Fits text piece ↔ identifier? text = some piece := by
  apply fits_iff_wordWhere? rfl
  intro piece
  exact Pattern.matches_identifier

end Kind

/-! ## Numbers -/

namespace NumberForm

/-- A decimal fraction is two words of digits around a point. -/
theorem decimal?_eq_some_iff {limit : Nat} {text piece : List Char} :
    decimal? limit text = some piece ↔
      ∃ later, text = word text ++ '.' :: later ∧
        isShortNumeral wholeLimit (word text) = true ∧ isShortNumeral limit (word later) = true ∧
        piece = word text ++ '.' :: word later := by
  rcases exists_word_append text with ⟨rest, parts, -⟩
  have dropped : text.drop (word text).length = rest :=
    List.append_cancel_left ((List.prefix_iff_eq_append.mp (word_isPrefix text)).trans parts)
  simp only [decimal?, dropped]
  constructor
  · intro found
    split at found
    next later =>
        simp only [Option.ite_none_right_eq_some, Bool.and_eq_true, Option.some.injEq] at found
        exact ⟨later, parts, found.1.1, found.1.2, found.2.symm⟩
    · contradiction
  · rintro ⟨later, laterParts, wholeShort, partShort, rfl⟩
    have restIs : rest = '.' :: later := List.append_cancel_left (parts.symm.trans laterParts)
    subst restIs
    simp [wholeShort, partShort]

theorem fits_iff_decimal? {kind : Kind} {limit : Nat} (bounded : kind.isWordBounded = true)
    (language : kind.pattern = Pattern.decimal limit) {text piece : List Char} :
    kind.Fits text piece ↔ decimal? limit text = some piece := by
  rw [Kind.fits_iff_of_wordBounded bounded, language, Pattern.matches_decimal, decimal?_eq_some_iff]
  constructor
  · rintro ⟨⟨whole, part, rfl, wholeShort, partShort⟩, rest, rfl, stops⟩
    have wholeWord : word (whole ++ '.' :: part ++ rest) = whole := by
      rw [List.append_assoc]
      exact word_append_of_stop
        (all_isWordChar_of_isNumeral (isNumeral_of_isShortNumeral wholeShort)) rfl
    have partWord : word (part ++ rest) = part :=
      word_append_of_stop
        (all_isWordChar_of_isNumeral (isNumeral_of_isShortNumeral partShort)) stops
    rw [wholeWord]
    exact ⟨part ++ rest, by simp, wholeShort, by rwa [partWord], by rw [partWord]⟩
  · rintro ⟨later, parts, wholeShort, partShort, rfl⟩
    rcases exists_word_append later with ⟨rest, laterParts, stops⟩
    refine ⟨⟨_, _, rfl, wholeShort, partShort⟩, rest, ?_, stops⟩
    rw [List.append_assoc, List.cons_append, ← laterParts]
    exact parts

theorem sign_of_isWordChar {first : Char} {later : List Char} (inWord : isWordChar first = true) :
    sign (first :: later) = [] := by
  unfold sign
  split
  next plus =>
      rcases List.cons.inj plus with ⟨rfl, -⟩
      exact absurd inWord (by decide)
  next minus =>
      rcases List.cons.inj minus with ⟨rfl, -⟩
      exact absurd inWord (by decide)
  · rfl

theorem sign_append_of_isNumeral {whole rest : List Char} (numeral : isNumeral whole = true) :
    sign (whole ++ rest) = [] := by
  have inWord := all_isWordChar_of_isNumeral numeral
  cases whole with
  | nil => exact absurd rfl (ne_nil_of_isNumeral numeral)
  | cons first later =>
      rw [List.all_cons, Bool.and_eq_true] at inWord
      exact sign_of_isWordChar inWord.1

theorem sign_append {signed rest : List Char} (matchesSign : Pattern.optionalSign.Matches signed)
    (unsigned : sign rest = []) : sign (signed ++ rest) = signed := by
  rcases Pattern.matches_optionalSign.mp matchesSign with rfl | rfl | rfl
  · exact unsigned
  · rfl
  · rfl

theorem matches_sign (text : List Char) : Pattern.optionalSign.Matches (sign text) := by
  rw [Pattern.matches_optionalSign]
  unfold sign
  split <;> simp

theorem isNumeral_digits {text : List Char} (nonempty : digits text ≠ []) :
    isNumeral (digits text) = true := by
  simp only [isNumeral, Bool.and_eq_true, bne_iff_ne]
  exact ⟨nonempty, List.all_takeWhile⟩

/-- An exponent is found where one stands and no word character follows it. -/
theorem exponent?_eq_some_iff {text piece : List Char} :
    exponent? text = some piece ↔
      Pattern.IsExponent piece ∧ ∃ rest, text = piece ++ rest ∧
        rest.head?.any isWordChar = false := by
  constructor
  · intro found
    cases text with
    | nil => simp [exponent?] at found
    | cons letter later =>
        simp only [exponent?, Option.ite_none_right_eq_some, Option.some.injEq] at found
        rcases found with ⟨⟨letterIs, numeral⟩, rfl⟩
        rcases exists_word_append (later.drop (sign later).length) with ⟨rest, parts, stops⟩
        have signParts := List.prefix_iff_eq_append.mp (sign_isPrefix later)
        refine ⟨⟨letter, sign later, _, rfl, letterIs, matches_sign later, numeral⟩, rest, ?_,
          stops⟩
        rw [List.cons_append, List.cons_append, List.append_assoc, ← parts, signParts]
  · rintro ⟨⟨letter, signed, power, rfl, letterIs, signedIs, numeral⟩, rest, rfl, stops⟩
    have signIs : sign (signed ++ (power ++ rest)) = signed :=
      sign_append signedIs (sign_append_of_isNumeral numeral)
    have powerIs : word (power ++ rest) = power :=
      word_append_of_stop (all_isWordChar_of_isNumeral numeral) stops
    simp only [exponent?, List.cons_append, List.append_assoc, signIs, List.drop_left, powerIs]
    simp [letterIs, numeral]

theorem isFraction_fraction (text : List Char) : Pattern.IsFraction (fraction text) := by
  unfold fraction
  split
  next later =>
      split
      · exact Or.inl rfl
      next nonempty => exact Or.inr ⟨_, rfl, isNumeral_digits nonempty⟩
  · exact Or.inl rfl

/-- An exponent starts neither with a digit nor with a point. -/
theorem head?_of_isExponent {exponent : List Char} (isExponent : Pattern.IsExponent exponent)
    (rest : List Char) :
    (exponent ++ rest).head?.any Char.isDigit = false ∧ fraction (exponent ++ rest) = [] := by
  rcases isExponent with ⟨letter, signed, power, rfl, rfl | rfl, -, -⟩ <;> exact ⟨rfl, rfl⟩

theorem fraction_append {part exponent : List Char} (isFraction : Pattern.IsFraction part)
    (isExponent : Pattern.IsExponent exponent) (rest : List Char) :
    fraction (part ++ (exponent ++ rest)) = part := by
  rcases head?_of_isExponent isExponent rest with ⟨noDigit, noFraction⟩
  rcases isFraction with rfl | ⟨numerals, rfl, numeral⟩
  · exact noFraction
  · have run : digits (numerals ++ (exponent ++ rest)) = numerals :=
      takeWhile_append_of_stop (all_isDigit_of_isNumeral numeral) noDigit
    simp [fraction, run, ne_nil_of_isNumeral numeral]

theorem digits_append {whole part exponent : List Char} (numeral : isNumeral whole = true)
    (isFraction : Pattern.IsFraction part) (isExponent : Pattern.IsExponent exponent)
    (rest : List Char) :
    digits (whole ++ (part ++ (exponent ++ rest))) = whole := by
  apply takeWhile_append_of_stop (all_isDigit_of_isNumeral numeral)
  rcases isFraction with rfl | ⟨numerals, rfl, -⟩
  · exact (head?_of_isExponent isExponent rest).1
  · rfl

/-- The parts of scientific notation leave no choice: each ends where the next one has to start. -/
theorem scientific?_eq_some_iff {text piece : List Char} :
    scientific? text = some piece ↔
      (Pattern.ofNumber .scientific).Matches piece ∧
        ∃ rest, text = piece ++ rest ∧ rest.head?.any isWordChar = false := by
  constructor
  · intro found
    simp only [scientific?, Option.ite_none_left_eq_some, Option.map_eq_some_iff] at found
    rcases found with ⟨nonempty, exponent, exponentFound, rfl⟩
    rcases exponent?_eq_some_iff.mp exponentFound with ⟨isExponent, rest, restParts, stops⟩
    let afterSign := text.drop (sign text).length
    let afterWhole := afterSign.drop (digits afterSign).length
    have signParts : sign text ++ afterSign = text :=
      List.prefix_iff_eq_append.mp (sign_isPrefix text)
    have wholeParts : digits afterSign ++ afterWhole = afterSign :=
      List.prefix_iff_eq_append.mp (digits_isPrefix afterSign)
    have fractionParts : fraction afterWhole ++ afterWhole.drop (fraction afterWhole).length =
        afterWhole :=
      List.prefix_iff_eq_append.mp (fraction_isPrefix afterWhole)
    refine ⟨Pattern.matches_scientific.mpr ⟨sign text, digits afterSign, fraction afterWhole,
      exponent, ?_, matches_sign text, isNumeral_digits nonempty, isFraction_fraction afterWhole,
      isExponent⟩, rest, ?_, stops⟩
    · rw [List.append_assoc, List.append_assoc]
    · rw [List.append_assoc, ← restParts, List.append_assoc, fractionParts, List.append_assoc,
        wholeParts, signParts]
  · rintro ⟨inLanguage, rest, rfl, stops⟩
    rcases Pattern.matches_scientific.mp inLanguage with
      ⟨signed, whole, part, exponent, rfl, signedIs, numeral, isFraction, isExponent⟩
    have signIs : sign (signed ++ (whole ++ (part ++ (exponent ++ rest)))) = signed :=
      sign_append signedIs (sign_append_of_isNumeral numeral)
    have digitsAre := digits_append numeral isFraction isExponent rest
    have fractionIs := fraction_append isFraction isExponent rest
    have exponentIs : exponent? (exponent ++ rest) = some exponent :=
      exponent?_eq_some_iff.mpr ⟨isExponent, rest, rfl, stops⟩
    simp only [scientific?, List.append_assoc, signIs, List.drop_left, digitsAre, fractionIs,
      exponentIs, ne_nil_of_isNumeral numeral, if_false, Option.map_some]

/-- The recogniser of a form of numbers finds the piece that the form fits. -/
theorem fits_iff {form : NumberForm} {text piece : List Char} :
    (Kind.number form).Fits text piece ↔ form.lexeme? text = some piece := by
  cases form with
  | scientific =>
      rw [Kind.fits_iff_of_wordBounded rfl]
      exact scientific?_eq_some_iff.symm
  | octal =>
      apply Kind.fits_iff_wordWhere? rfl
      intro word
      rw [Kind.pattern, Pattern.matches_octal, iff_self_and]
      exact fun octal => all_isWordChar_of_isNumeral (isNumeral_of_isOctal octal)
  | float => exact fits_iff_decimal? rfl rfl
  | double => exact fits_iff_decimal? rfl rfl
  | int =>
      apply Kind.fits_iff_wordWhere? rfl
      intro word
      rw [Kind.pattern, Pattern.ofNumber, Pattern.matches_limited_digits, iff_self_and]
      exact fun short => all_isWordChar_of_isNumeral (isNumeral_of_isShortNumeral short)
  | hex =>
      apply Kind.fits_iff_wordWhere? rfl
      intro word
      rw [Kind.pattern, Pattern.matches_hex, iff_self_and]
      exact all_isWordChar_of_isHex
  | binary =>
      apply Kind.fits_iff_wordWhere? rfl
      intro word
      rw [Kind.pattern, Pattern.matches_binary, iff_self_and]
      exact all_isWordChar_of_isBinary

end NumberForm

end Lexis
