import Lexis.Proofs.Openings

/-!
# Where no lexeme starts

No kind recognises anything at a place of a source in nine cases, which `Stuck` lists: the place
lies inside a word, or a word, a number, a literal, a line end or a sign starts there that is not of
the form its first character promises, or the character opens no lexeme at all.

The cases are stated without the recognisers. Where a literal is not closed, this takes a reading of
its own: `Unclosed` goes through the characters behind a quote with the rule for backslashes and
nothing else.
-/

namespace Lexis

namespace QuotedForm

/-- Read on with every backslash taking the next character along unless that is a line feed, a text
comes to a line feed or to its end before it comes to a quote. -/
inductive Unclosed : List Char → Prop where
  | ended : Unclosed []
  | feed (later : List Char) : Unclosed ('\n' :: later)
  | escape {escaped : Char} {later : List Char} (notFeed : escaped ≠ '\n')
      (unclosed : Unclosed later) : Unclosed ('\\' :: escaped :: later)
  | backslash {later : List Char} (takesNothing : later.head?.all (· == '\n') = true)
      (unclosed : Unclosed later) : Unclosed ('\\' :: later)
  | plain {first : Char} {later : List Char} (notQuote : first ≠ '"') (notBackslash : first ≠ '\\')
      (notFeed : first ≠ '\n') (unclosed : Unclosed later) : Unclosed (first :: later)

/-- A character literal goes on behind its opening quote with one character or an escape and a
closing quote. -/
def ClosesChar (later : List Char) : Prop :=
  (∃ content rest, later = content :: '\'' :: rest ∧
      content ≠ '\'' ∧ content ≠ '\\' ∧ content ≠ '\n') ∨
    ∃ letter rest, later = '\\' :: letter :: '\'' :: rest ∧ (letter = 'n' ∨ letter = 't')

theorem unclosed_of_throughQuote?_eq_none {text : List Char} (fails : throughQuote? text = none) :
    Unclosed text := by
  fun_induction throughQuote? text with
  | case1 => exact .ended
  | case2 later => contradiction
  | case3 later => exact .feed later
  | case4 => exact .backslash rfl .ended
  | case5 later => exact .backslash rfl (.feed later)
  | case6 escaped later notFeed ih => exact .escape notFeed (ih (Option.map_eq_none_iff.mp fails))
  | case7 first later notQuote notFeed notLast notBeforeFeed notEscape ih =>
      have notBackslash : first ≠ '\\' := by
        intro backslash
        cases later with
        | nil => exact notLast backslash rfl
        | cons escaped others => exact notEscape escaped others backslash rfl
      exact .plain notQuote notBackslash notFeed (ih (Option.map_eq_none_iff.mp fails))

theorem throughQuote?_eq_none_of_unclosed {text : List Char} (unclosed : Unclosed text) :
    throughQuote? text = none := by
  induction unclosed with
  | ended => rfl
  | feed later => rfl
  | escape notFeed _ ih => simp [throughQuote?, ih]
  | @backslash later takesNothing _ _ =>
      cases later with
      | nil => rfl
      | cons escaped others =>
          have feed : escaped = '\n' := by simpa using takesNothing
          rw [feed, throughQuote?]
  | plain notQuote notBackslash notFeed _ ih =>
      simp [throughQuote?, notBackslash, ih]

theorem string?_eq_none_iff {later : List Char} :
    string? ('"' :: later) = none ↔ Unclosed later := by
  rw [string?, Option.map_eq_none_iff]
  exact ⟨unclosed_of_throughQuote?_eq_none, throughQuote?_eq_none_of_unclosed⟩

/-- Where no string starts there is no text block either, since it would open with an empty string.
-/
theorem textBlock?_eq_none_of_string? {text : List Char} (noString : string? text = none) :
    textBlock? text = none := by
  unfold textBlock?
  split
  · contradiction
  · rfl

theorem closesChar_iff {later : List Char} :
    ClosesChar later ↔ ∃ piece, char? ('\'' :: later) = some piece := by
  constructor
  · rintro (⟨content, rest, rfl, allowed⟩ | ⟨letter, rest, rfl, rfl | rfl⟩)
    · refine ⟨['\'', content, '\''], fits_char_iff.mp ?_⟩
      refine (Kind.fits_iff_of_notWordBounded rfl).mpr ⟨⟨by simp, rest, rfl⟩, ?_⟩
      exact matches_char.mpr ⟨[content], rfl, Or.inl ⟨content, rfl, allowed⟩⟩
    · exact ⟨_, rfl⟩
    · exact ⟨_, rfl⟩
  · rintro ⟨piece, found⟩
    rcases (Kind.fits_iff_of_notWordBounded rfl).mp (fits_char_iff.mpr found) with
      ⟨⟨-, rest, parts⟩, inLanguage⟩
    rcases matches_char.mp inLanguage with ⟨body, rfl, ⟨content, rfl, allowed⟩ | rfl | rfl⟩
    · exact Or.inl ⟨content, rest, (List.cons.inj parts).2.symm, allowed⟩
    · exact Or.inr ⟨'n', rest, (List.cons.inj parts).2.symm, Or.inl rfl⟩
    · exact Or.inr ⟨'t', rest, (List.cons.inj parts).2.symm, Or.inr rfl⟩

theorem char?_eq_none_iff {later : List Char} :
    char? ('\'' :: later) = none ↔ ¬ClosesChar later := by
  rw [closesChar_iff, not_exists, Option.eq_none_iff_forall_not_mem]
  exact Iff.rfl

end QuotedForm

namespace NumberForm

/-- Scientific notation without a sign stands at the start of a text, and no word character follows
it. -/
def StartsScientific (text : List Char) : Prop :=
  ∃ whole part exponent rest, text = whole ++ part ++ exponent ++ rest ∧
    isNumeral whole = true ∧ Pattern.IsFraction part ∧ Pattern.IsExponent exponent ∧
    rest.head?.any isWordChar = false

theorem startsScientific_iff {first : Char} (digit : first.isDigit = true) {later : List Char} :
    StartsScientific (first :: later) ↔ ∃ piece, scientific? (first :: later) = some piece := by
  constructor
  · rintro ⟨whole, part, exponent, rest, parts, numeral, isFraction, isExponent, stops⟩
    refine ⟨whole ++ part ++ exponent, scientific?_eq_some_iff.mpr ⟨?_, rest, parts, stops⟩⟩
    exact Pattern.matches_scientific.mpr ⟨[], whole, part, exponent, by simp,
      Pattern.matches_optionalSign.mpr (Or.inl rfl), numeral, isFraction, isExponent⟩
  · rintro ⟨piece, found⟩
    rcases scientific?_eq_some_iff.mp found with ⟨inLanguage, rest, parts, stops⟩
    rcases Pattern.matches_scientific.mp inLanguage with
      ⟨signed, whole, part, exponent, rfl, signedIs, numeral, isFraction, isExponent⟩
    rcases Pattern.matches_optionalSign.mp signedIs with rfl | rfl | rfl
    · exact ⟨whole, part, exponent, rest, by simpa using parts, numeral, isFraction, isExponent,
        stops⟩
    · rcases List.cons.inj parts with ⟨rfl, -⟩
      contradiction
    · rcases List.cons.inj parts with ⟨rfl, -⟩
      contradiction

/-- No number starts where the word at a place has none of the forms of single words and no
scientific notation starts; the whole part of a decimal fraction is a number by itself. -/
theorem forall_lexeme?_eq_none_iff {first : Char} (digit : first.isDigit = true)
    {later : List Char} :
    (∀ form : NumberForm, form.lexeme? (first :: later) = none) ↔
      isShortNumeral 9 (word (first :: later)) = false ∧ isOctal (word (first :: later)) = false ∧
        isHex (word (first :: later)) = false ∧ isBinary (word (first :: later)) = false ∧
        ¬StartsScientific (first :: later) := by
  have scientificIff :
      ¬StartsScientific (first :: later) ↔ scientific? (first :: later) = none := by
    rw [startsScientific_iff digit, not_exists, Option.eq_none_iff_forall_not_mem]
    exact Iff.rfl
  have decimalFails {limit : Nat} (noInt : isShortNumeral 9 (word (first :: later)) = false) :
      decimal? limit (first :: later) = none := by
    rw [Option.eq_none_iff_forall_not_mem]
    intro piece found
    rcases decimal?_eq_some_iff.mp found with ⟨behind, -, whole, -, -⟩
    have whole9 : isShortNumeral 9 (word (first :: later)) = true := whole
    rw [noInt] at whole9
    contradiction
  rw [scientificIff]
  constructor
  · intro fails
    refine ⟨?_, ?_, ?_, ?_, fails .scientific⟩
    · exact wordWhere?_eq_none_iff.mp (fails .int)
    · exact wordWhere?_eq_none_iff.mp (fails .octal)
    · exact wordWhere?_eq_none_iff.mp (fails .hex)
    · exact wordWhere?_eq_none_iff.mp (fails .binary)
  · rintro ⟨noInt, noOctal, noHex, noBinary, noScientific⟩ form
    cases form with
    | scientific => exact noScientific
    | octal => exact wordWhere?_eq_none_iff.mpr noOctal
    | float => exact decimalFails noInt
    | double => exact decimalFails noInt
    | int => exact wordWhere?_eq_none_iff.mpr noInt
    | hex => exact wordWhere?_eq_none_iff.mpr noHex
    | binary => exact wordWhere?_eq_none_iff.mpr noBinary

end NumberForm

theorem Trivia.newline?_eq_none_iff {later : List Char} :
    newline? ('\r' :: later) = none ↔ later.head? ≠ some '\n' := by
  cases later with
  | nil => simp [newline?]
  | cons second others =>
      rw [List.head?_cons, ne_eq, Option.some.injEq]
      constructor
      · rintro fails rfl
        contradiction
      · intro noFeed
        simp [newline?, noFeed]

theorem Operator.lexeme?_notEqual_eq_none_iff {later : List Char} :
    Operator.notEqual.lexeme? ('!' :: later) = none ↔ later.head? ≠ some '=' := by
  cases later with
  | nil => simp [lexeme?, spelled?, spelling]
  | cons second others =>
      rw [List.head?_cons, ne_eq, Option.some.injEq]
      constructor
      · rintro fails rfl
        contradiction
      · intro noEqualSign
        simp [lexeme?, spelled?, spelling, Ne.symm noEqualSign]

/-! ## The nine cases -/

/-- The cases in which no lexeme starts with the first character of a text that follows a given
byte. -/
inductive Stuck (previous : Option UInt8) : List Char → Prop where
  | insideWord {first : Char} {later : List Char} (before : previous.any isWordByte = true)
      (inside : isWordChar first = true) : Stuck previous (first :: later)
  | underscore (later : List Char) : Stuck previous ('_' :: later)
  | longWord {first : Char} {later : List Char} (letter : first.isAlpha = true)
      (long : 32 < Text.size (word (first :: later))) : Stuck previous (first :: later)
  | number {first : Char} {later : List Char} (digit : first.isDigit = true)
      (notDecimal : NumberForm.isShortNumeral 9 (word (first :: later)) = false)
      (notOctal : NumberForm.isOctal (word (first :: later)) = false)
      (notHex : NumberForm.isHex (word (first :: later)) = false)
      (notBinary : NumberForm.isBinary (word (first :: later)) = false)
      (notScientific : ¬NumberForm.StartsScientific (first :: later)) :
      Stuck previous (first :: later)
  | string {later : List Char} (unclosed : QuotedForm.Unclosed later) :
      Stuck previous ('"' :: later)
  | char {later : List Char} (unclosed : ¬QuotedForm.ClosesChar later) :
      Stuck previous ('\'' :: later)
  | carriageReturn {later : List Char} (noFeed : later.head? ≠ some '\n') :
      Stuck previous ('\r' :: later)
  | exclamationMark {later : List Char} (noEqualSign : later.head? ≠ some '=') :
      Stuck previous ('!' :: later)
  | foreign {first : Char} {later : List Char} (notLetter : first.isAlpha = false)
      (notDigit : first.isDigit = false) (notMark : first ∉ Kind.marks) :
      Stuck previous (first :: later)

namespace Kind

variable {kind : Kind} {previous : Option UInt8} {text : List Char} {first : Char}

theorem lexemeAfter?_eq_none_of_inWord (bounded : kind.isWordBounded = true)
    (before : previous.any isWordByte = true) : kind.lexemeAfter? previous text = none := by
  simp [lexemeAfter?, fitsAfter, bounded, before]

theorem lexemeAfter?_eq_none_of_lexeme? (fails : kind.lexeme? text = none) :
    kind.lexemeAfter? previous text = none := by
  simp [lexemeAfter?, fails]

theorem lexemeAfter?_of_notInWord (notInWord : previous.any isWordByte = false)
    (inside : isWordChar first = true) {later : List Char} :
    kind.lexemeAfter? previous (first :: later) = kind.lexeme? (first :: later) := by
  simp [lexemeAfter?, fitsAfter, notInWord, NumberForm.sign_of_isWordChar inside]

theorem lexemeAfter?_of_notWordBounded (unbounded : kind.isWordBounded = false) :
    kind.lexemeAfter? previous text = kind.lexeme? text := by
  have notScientific : kind ≠ .number .scientific := by
    rintro rfl
    contradiction
  simp [lexemeAfter?, fitsAfter, unbounded, notScientific]

theorem isWordBounded_of_mem_rivals (inside : isWordChar first = true)
    (rival : kind ∈ rivals first) : kind.isWordBounded = true := by
  have bounded : ∀ kind ∈ all, (kind.opensWithLetter || kind.opensWithDigit) = true →
      kind.isWordBounded = true := by decide
  apply bounded kind (mem_all kind)
  rcases opensWith_of_mem_rivals inside rival with ⟨letter, -⟩ | ⟨digit, -⟩
  · rw [letter, Bool.true_or]
  · rw [digit, Bool.or_true]

/-- Marks that open a lexeme only where the text goes on in a certain way. -/
def demandingMarks : List Char :=
  ['"', '\'', '\r', '!']

theorem exists_lexeme?_of_mark (mark : first ∈ marks) (plain : first ∉ demandingMarks)
    (later : List Char) :
    ∃ kind ∈ rivals first, kind.isWordBounded = false ∧
      ∃ piece, kind.lexeme? (first :: later) = some piece := by
  have alone : (marks.filter (· ∉ demandingMarks)).all (fun mark =>
      (rivals mark).any fun kind => !kind.isWordBounded && kind.lexeme? [mark] == some [mark]) =
      true := by decide
  have found := List.all_eq_true.mp alone first (by simp [mark, plain])
  simp only [List.any_eq_true, Bool.and_eq_true, Bool.not_eq_true', beq_iff_eq] at found
  rcases found with ⟨kind, rival, unbounded, aloneFound⟩
  -- a kind without word bounds does not ask what follows the piece
  have fitsAlone := (fits_iff_of_notWordBounded unbounded).mp (fits_of_lexeme? aloneFound)
  have fits : kind.Fits (first :: later) [first] :=
    (fits_iff_of_notWordBounded unbounded).mpr ⟨⟨by simp, later, rfl⟩, fitsAlone.2⟩
  rcases exists_lexeme?_of_fits fits with ⟨piece, pieceFound, -⟩
  exact ⟨kind, rival, unbounded, piece, pieceFound⟩

/-- The word that a reserved word or an identifier takes keeps to the limit on identifiers. -/
theorem size_word_le_of_lexeme? (opening : kind.opensWithLetter = true) {piece : List Char}
    (found : kind.lexeme? text = some piece) : Text.size (word text) ≤ 32 := by
  rw [size_of_all_isWordChar (all_word text), word_eq_of_lexeme? opening found]
  cases kind with
  | keyword keyword =>
      have taken : wordWhere? (· == keyword.spelling) text = some piece := found
      rcases wordWhere?_eq_some_iff.mp taken with ⟨spelled, rfl⟩
      rw [beq_iff_eq.mp spelled]
      cases keyword <;> decide
  | identifier =>
      rcases wordWhere?_eq_some_iff.mp found with ⟨accepted, rfl⟩
      cases parts : word text with
      | nil => simp
      | cons first later =>
          simp only [parts, isIdentifier, Bool.and_eq_true, decide_eq_true_eq] at accepted
          exact accepted.2
  | trivia form => contradiction
  | punctuation form => contradiction
  | number form => contradiction
  | quoted form => contradiction
  | operator sign => contradiction

/-- A word that opens with a letter is an identifier unless it is too long. -/
theorem lt_size_word_of_identifier?_eq_none (letter : first.isAlpha = true) {later : List Char}
    (fails : identifier? (first :: later) = none) : 32 < Text.size (word (first :: later)) := by
  have rejected := wordWhere?_eq_none_iff.mp fails
  have wordIs : word (first :: later) = first :: word later :=
    List.takeWhile_cons_of_pos (isWordChar_of_isAlpha letter)
  rw [size_of_all_isWordChar (all_word _)]
  rw [wordIs] at rejected ⊢
  simp only [isIdentifier, letter, Bool.true_and, decide_eq_false_iff_not, Nat.not_lt] at rejected
  exact Nat.lt_succ_of_le rejected

end Kind

section Stuck

variable {previous : Option UInt8} {first : Char} {later : List Char}

theorem stuck_of_isAlpha (letter : first.isAlpha = true)
    (fails : ∀ kind ∈ Kind.rivals first, kind.lexemeAfter? previous (first :: later) = none) :
    Stuck previous (first :: later) := by
  cases before : previous.any isWordByte with
  | true => exact .insideWord before (isWordChar_of_isAlpha letter)
  | false =>
      have rival : Kind.identifier ∈ Kind.rivals first :=
        Kind.mem_rivals_iff.mpr (Kind.opens_of_isAlpha rfl letter)
      have identifierFails := fails .identifier rival
      rw [Kind.lexemeAfter?_of_notInWord before (isWordChar_of_isAlpha letter)] at identifierFails
      exact .longWord letter (Kind.lt_size_word_of_identifier?_eq_none letter identifierFails)

theorem stuck_of_isDigit (digit : first.isDigit = true)
    (fails : ∀ kind ∈ Kind.rivals first, kind.lexemeAfter? previous (first :: later) = none) :
    Stuck previous (first :: later) := by
  cases before : previous.any isWordByte with
  | true => exact .insideWord before (isWordChar_of_isDigit digit)
  | false =>
      have numbersFail : ∀ form : NumberForm, form.lexeme? (first :: later) = none := by
        intro form
        have rival : Kind.number form ∈ Kind.rivals first :=
          Kind.mem_rivals_iff.mpr (Kind.opens_of_isDigit rfl digit)
        have formFails := fails (.number form) rival
        rwa [Kind.lexemeAfter?_of_notInWord before (isWordChar_of_isDigit digit)] at formFails
      rcases (NumberForm.forall_lexeme?_eq_none_iff digit).mp numbersFail with
        ⟨notDecimal, notOctal, notHex, notBinary, notScientific⟩
      exact .number digit notDecimal notOctal notHex notBinary notScientific

theorem stuck_of_mem_marks (mark : first ∈ Kind.marks)
    (fails : ∀ kind ∈ Kind.rivals first, kind.lexemeAfter? previous (first :: later) = none) :
    Stuck previous (first :: later) := by
  rcases Decidable.em (first ∈ Kind.demandingMarks) with demanding | plain
  · simp only [Kind.demandingMarks, List.mem_cons, List.not_mem_nil, or_false] at demanding
    rcases demanding with rfl | rfl | rfl | rfl
    · have stringFails := fails (.quoted .string) (by decide)
      rw [Kind.lexemeAfter?_of_notWordBounded rfl] at stringFails
      exact .string (QuotedForm.string?_eq_none_iff.mp stringFails)
    · have charFails := fails (.quoted .char) (by decide)
      rw [Kind.lexemeAfter?_of_notWordBounded rfl] at charFails
      exact .char (QuotedForm.char?_eq_none_iff.mp charFails)
    · have newlineFails := fails (.trivia .newline) (by decide)
      rw [Kind.lexemeAfter?_of_notWordBounded rfl] at newlineFails
      exact .carriageReturn (Trivia.newline?_eq_none_iff.mp newlineFails)
    · have notEqualFails := fails (.operator .notEqual) (by decide)
      rw [Kind.lexemeAfter?_of_notWordBounded rfl] at notEqualFails
      exact .exclamationMark (Operator.lexeme?_notEqual_eq_none_iff.mp notEqualFails)
  · rcases Kind.exists_lexeme?_of_mark mark plain later with ⟨kind, rival, unbounded, piece, found⟩
    have kindFails := fails kind rival
    rw [Kind.lexemeAfter?_of_notWordBounded unbounded, found] at kindFails
    contradiction

theorem stuck_of_first?_eq_none (nothing : Lexeme.first? previous (first :: later) = none) :
    Stuck previous (first :: later) := by
  have fails := Lexeme.first?_cons_eq_none_iff.mp nothing
  cases letter : first.isAlpha with
  | true => exact stuck_of_isAlpha letter fails
  | false =>
      cases digit : first.isDigit with
      | true => exact stuck_of_isDigit digit fails
      | false =>
          rcases Decidable.em (first ∈ Kind.marks) with mark | notMark
          · exact stuck_of_mem_marks mark fails
          · exact .foreign letter digit notMark

theorem first?_eq_none_of_rivals
    (fails : ∀ kind ∈ Kind.rivals first, kind.lexeme? (first :: later) = none) :
    Lexeme.first? previous (first :: later) = none := by
  apply Lexeme.first?_cons_eq_none_iff.mpr
  intro kind rival
  exact Kind.lexemeAfter?_eq_none_of_lexeme? (fails kind rival)

theorem first?_eq_none_of_stuck {text : List Char} (stuck : Stuck previous text) :
    Lexeme.first? previous text = none := by
  cases stuck with
  | insideWord before inside =>
      apply Lexeme.first?_cons_eq_none_iff.mpr
      intro kind rival
      have bounded := Kind.isWordBounded_of_mem_rivals inside rival
      exact Kind.lexemeAfter?_eq_none_of_inWord bounded before
  | underscore later =>
      apply first?_eq_none_of_rivals
      rw [Kind.rivals_eq_nil rfl rfl (by decide)]
      exact List.forall_mem_nil _
  | longWord letter long =>
      apply first?_eq_none_of_rivals
      intro kind rival
      rw [Option.eq_none_iff_forall_not_mem]
      intro piece found
      have short :=
        Kind.size_word_le_of_lexeme? (Kind.opensWithLetter_of_mem_rivals letter rival) found
      omega
  | number digit notDecimal notOctal notHex notBinary notScientific =>
      apply first?_eq_none_of_rivals
      intro kind rival
      rcases Kind.exists_number_of_mem_rivals digit rival with ⟨form, rfl⟩
      exact (NumberForm.forall_lexeme?_eq_none_iff digit).mpr
        ⟨notDecimal, notOctal, notHex, notBinary, notScientific⟩ form
  | string unclosed =>
      apply first?_eq_none_of_rivals
      have rivals : Kind.rivals '"' = [.quoted .textBlock, .quoted .string] := by decide
      have stringFails := QuotedForm.string?_eq_none_iff.mpr unclosed
      rw [rivals, List.forall_mem_cons, List.forall_mem_singleton]
      exact ⟨QuotedForm.textBlock?_eq_none_of_string? stringFails, stringFails⟩
  | char unclosed =>
      apply first?_eq_none_of_rivals
      have rivals : Kind.rivals '\'' = [.quoted .char] := by decide
      rw [rivals, List.forall_mem_singleton]
      exact QuotedForm.char?_eq_none_iff.mpr unclosed
  | carriageReturn noFeed =>
      apply first?_eq_none_of_rivals
      have rivals : Kind.rivals '\r' = [.trivia .newline] := by decide
      rw [rivals, List.forall_mem_singleton]
      exact Trivia.newline?_eq_none_iff.mpr noFeed
  | exclamationMark noEqualSign =>
      apply first?_eq_none_of_rivals
      have rivals : Kind.rivals '!' = [.operator .notEqual] := by decide
      rw [rivals, List.forall_mem_singleton]
      exact Operator.lexeme?_notEqual_eq_none_iff.mpr noEqualSign
  | foreign notLetter notDigit notMark =>
      apply first?_eq_none_of_rivals
      rw [Kind.rivals_eq_nil notLetter notDigit notMark]
      exact List.forall_mem_nil _

/-- No lexeme stands at a place of a source exactly where the character there is stuck behind the
byte before it. -/
theorem lexemeAt_eq_none_iff_stuck {content : String} {offset : Nat} {before : List Char}
    (cut : cutAt content offset = .ok (before, first :: later)) :
    lexemeAt content offset = .ok none ↔ Stuck (Text.bytes before).getLast? (first :: later) := by
  rcases cutAt_eq_ok_iff.mp cut with ⟨parts, rfl⟩
  rw [lexemeAt_of_parts parts (List.cons_ne_nil first later), Except.ok.injEq,
    Option.map_eq_none_iff, Text.getLast?_bytes]
  exact ⟨stuck_of_first?_eq_none, first?_eq_none_of_stuck⟩

/-- The quote in `f("x` opens a string that is not closed. -/
theorem lexemeAt_eq_none_iff_stuck_of_open_string :
    cutAt "f(\"x" 2 = .ok (['f', '('], ['"', 'x']) ∧
      (lexemeAt "f(\"x" 2 = .ok none ↔ Stuck (Text.bytes ['f', '(']).getLast? ['"', 'x']) :=
  ⟨by rfl, lexemeAt_eq_none_iff_stuck (by rfl)⟩

end Stuck

end Lexis
