import Lexis.Proofs.Exactness

/-!
# The first character of a lexeme

A kind can recognise something only where its lexemes may open: with a letter, with a digit, or with
one of a few marks. Of the 55 kinds, only those that may open with the first character of a text are
rivals there, and they are few: the numbers where a digit stands, the reserved words and identifiers
where a letter stands, and at most three kinds where a mark stands. What is recognised at a place is
therefore found among the rivals of the character there.
-/

namespace Lexis

namespace Kind

/-- Kinds whose lexemes open with a letter. -/
def opensWithLetter : Kind → Bool
  | .keyword _ | .identifier => true
  | _ => false

/-- Kinds whose lexemes may open with a digit. -/
def opensWithDigit : Kind → Bool
  | .number _ => true
  | _ => false

/-- The characters other than letters and digits with which a lexeme of a kind may open. -/
def openingMarks : Kind → List Char
  | .trivia .blockComment | .trivia .lineComment => ['/']
  | .trivia .newline => ['\n', '\r']
  | .trivia .tab => ['\t']
  | .trivia .spaces => [' ']
  | .punctuation form => [form.mark]
  | .number .scientific => ['+', '-']
  | .quoted .char => ['\'']
  | .quoted _ => ['"']
  | .operator sign => sign.spelling.take 1
  | _ => []

/-- A lexeme of a kind may open with a character. -/
def opens (kind : Kind) (first : Char) : Bool :=
  kind.opensWithLetter && first.isAlpha || kind.opensWithDigit && first.isDigit ||
    decide (first ∈ kind.openingMarks)

theorem opens_of_isDigit {kind : Kind} {first : Char} (opening : kind.opensWithDigit = true)
    (digit : first.isDigit = true) : kind.opens first = true := by
  simp [opens, opening, digit]

theorem opens_of_isAlpha {kind : Kind} {first : Char} (opening : kind.opensWithLetter = true)
    (letter : first.isAlpha = true) : kind.opens first = true := by
  simp [opens, opening, letter]

theorem opens_of_mem {kind : Kind} {first : Char} (member : first ∈ kind.openingMarks) :
    kind.opens first = true := by
  simp [opens, member]

theorem isDigit_of_isNumeral_append {first : Char} {later numeral rest : List Char}
    (isNumeral : NumberForm.isNumeral numeral = true) (parts : first :: later = numeral ++ rest) :
    first.isDigit = true := by
  have digits := NumberForm.all_isDigit_of_isNumeral isNumeral
  cases numeral with
  | nil => exact absurd rfl (NumberForm.ne_nil_of_isNumeral isNumeral)
  | cons head tail =>
      rcases List.cons.inj parts with ⟨rfl, -⟩
      rw [List.all_cons, Bool.and_eq_true] at digits
      exact digits.1

theorem opens_of_matches_number {form : NumberForm} {first : Char} {later : List Char}
    (inLanguage : (Pattern.ofNumber form).Matches (first :: later)) :
    (Kind.number form).opens first = true := by
  cases form with
  | scientific =>
      rcases Pattern.matches_scientific.mp inLanguage with
        ⟨signed, whole, part, exponent, parts, signedIs, numeral, -, -⟩
      rcases Pattern.matches_optionalSign.mp signedIs with rfl | rfl | rfl
      · exact opens_of_isDigit rfl (isDigit_of_isNumeral_append numeral parts)
      · rcases List.cons.inj parts with ⟨rfl, -⟩
        rfl
      · rcases List.cons.inj parts with ⟨rfl, -⟩
        rfl
  | octal =>
      have numeral := NumberForm.isNumeral_of_isOctal (Pattern.matches_octal.mp inLanguage)
      exact opens_of_isDigit rfl (isDigit_of_isNumeral_append numeral (List.append_nil _).symm)
  | float =>
      rcases Pattern.matches_decimal.mp inLanguage with ⟨whole, part, parts, short, -⟩
      have numeral := NumberForm.isNumeral_of_isShortNumeral short
      exact opens_of_isDigit rfl (isDigit_of_isNumeral_append numeral parts)
  | double =>
      rcases Pattern.matches_decimal.mp inLanguage with ⟨whole, part, parts, short, -⟩
      have numeral := NumberForm.isNumeral_of_isShortNumeral short
      exact opens_of_isDigit rfl (isDigit_of_isNumeral_append numeral parts)
  | int =>
      have numeral :=
        NumberForm.isNumeral_of_isShortNumeral (Pattern.matches_limited_digits.mp inLanguage)
      exact opens_of_isDigit rfl (isDigit_of_isNumeral_append numeral (List.append_nil _).symm)
  | hex =>
      rcases Pattern.matches_spelling_inOrder.mp inLanguage with ⟨right, parts, -⟩
      rcases List.cons.inj parts with ⟨rfl, -⟩
      rfl
  | binary =>
      rcases Pattern.matches_spelling_inOrder.mp inLanguage with ⟨right, parts, -⟩
      rcases List.cons.inj parts with ⟨rfl, -⟩
      rfl

theorem opens_of_matches_trivia {form : Trivia} {first : Char} {later : List Char}
    (inLanguage : (Pattern.ofTrivia form).Matches (first :: later)) :
    (Kind.trivia form).opens first = true := by
  apply opens_of_mem
  cases form with
  | blockComment =>
      rcases Trivia.matches_blockComment.mp inLanguage with ⟨body, parts⟩
      simp [openingMarks, (List.cons.inj parts).1]
  | lineComment =>
      rcases Trivia.matches_lineComment.mp inLanguage with ⟨body, closing, parts, -, -⟩
      simp [openingMarks, (List.cons.inj parts).1]
  | newline =>
      rcases Trivia.matches_newline.mp inLanguage with parts | parts
      · simp [openingMarks, (List.cons.inj parts).1]
      · simp [openingMarks, (List.cons.inj parts).1]
  | tab =>
      rw [Pattern.ofTrivia, Pattern.matches_spelling] at inLanguage
      simp [openingMarks, (List.cons.inj inLanguage).1]
  | spaces =>
      have spaces := (Trivia.matches_spaces.mp inLanguage).2
      simp only [List.all_cons, Bool.and_eq_true, beq_iff_eq] at spaces
      simp [openingMarks, spaces.1]

theorem opens_of_matches_quoted {form : QuotedForm} {first : Char} {later : List Char}
    (inLanguage : (Pattern.ofQuoted form).Matches (first :: later)) :
    (Kind.quoted form).opens first = true := by
  apply opens_of_mem
  cases form with
  | textBlock =>
      rcases QuotedForm.matches_textBlock.mp inLanguage with ⟨body, parts, -⟩
      simp [openingMarks, (List.cons.inj parts).1]
  | string =>
      rcases QuotedForm.matches_string.mp inLanguage with ⟨body, parts, -⟩
      simp [openingMarks, (List.cons.inj parts).1]
  | char =>
      rcases QuotedForm.matches_char.mp inLanguage with ⟨body, parts, -⟩
      simp [openingMarks, (List.cons.inj parts).1]

/-- A text of a kind opens with a character with which lexemes of the kind may open. -/
theorem opens_of_matches {kind : Kind} {first : Char} {later : List Char}
    (inLanguage : kind.pattern.Matches (first :: later)) : kind.opens first = true := by
  cases kind with
  | trivia form => exact opens_of_matches_trivia inLanguage
  | punctuation form =>
      apply opens_of_mem
      rw [pattern, Pattern.matches_spelling] at inLanguage
      simp [openingMarks, (List.cons.inj inLanguage).1]
  | number form => exact opens_of_matches_number inLanguage
  | quoted form => exact opens_of_matches_quoted inLanguage
  | keyword word =>
      rw [pattern, Pattern.matches_spelling] at inLanguage
      have opening : word.spelling.head?.any Char.isAlpha = true := by cases word <;> decide
      rw [← inLanguage] at opening
      exact opens_of_isAlpha rfl (by simpa using opening)
  | operator sign =>
      apply opens_of_mem
      rw [pattern, Pattern.matches_spelling] at inLanguage
      simp [openingMarks, ← inLanguage]
  | identifier =>
      have accepted := (Pattern.matches_identifier.mp inLanguage).1
      simp only [isIdentifier, Bool.and_eq_true] at accepted
      exact opens_of_isAlpha rfl accepted.1

theorem opens_of_lexeme? {kind : Kind} {first : Char} {later piece : List Char}
    (found : kind.lexeme? (first :: later) = some piece) : kind.opens first = true := by
  rcases fits_of_lexeme? found with ⟨⟨nonempty, begins⟩, inLanguage, -⟩
  cases piece with
  | nil => exact absurd rfl nonempty
  | cons head tail =>
      rcases List.cons_prefix_cons.mp begins with ⟨rfl, -⟩
      exact opens_of_matches inLanguage

/-- The kinds whose lexemes may open with a character, in order of priority. -/
def rivals (first : Char) : List Kind :=
  all.filter (·.opens first)

theorem mem_rivals_iff {kind : Kind} {first : Char} :
    kind ∈ rivals first ↔ kind.opens first = true := by
  simp [rivals, mem_all]

theorem mem_rivals_of_lexemeAfter? {kind : Kind} {previous : Option UInt8} {first : Char}
    {later piece : List Char}
    (found : kind.lexemeAfter? previous (first :: later) = some piece) : kind ∈ rivals first :=
  mem_rivals_iff.mpr (opens_of_lexeme? (lexemeAfter?_eq_some_iff.mp found).2)

/-- The characters other than letters and digits with which a lexeme may open. -/
def marks : List Char :=
  ['/', '\n', '\r', '\t', ' ', '(', ')', '{', '}', '[', ']', ';', ':', ',', '+', '-', '"', '\'',
    '=', '!', '.', '*', '^', '>', '<']

theorem mem_marks_of_mem_openingMarks {kind : Kind} {first : Char}
    (member : first ∈ kind.openingMarks) : first ∈ marks := by
  have listed : all.flatMap openingMarks ⊆ marks := by decide
  exact listed (List.mem_flatMap.mpr ⟨kind, mem_all kind, member⟩)

theorem isWordChar_eq_false_of_mem_marks {first : Char} (mark : first ∈ marks) :
    isWordChar first = false := by
  have noWordChars : marks.all (fun other => !isWordChar other) = true := by decide
  simpa using List.all_eq_true.mp noWordChars first mark

theorem notMem_openingMarks_of_isWordChar {first : Char} (inWord : isWordChar first = true)
    (kind : Kind) : first ∉ kind.openingMarks := by
  intro member
  rw [isWordChar_eq_false_of_mem_marks (mem_marks_of_mem_openingMarks member)] at inWord
  contradiction

/-- A kind that may open with a word character opens with letters or with digits. -/
theorem opensWith_of_mem_rivals {kind : Kind} {first : Char} (inWord : isWordChar first = true)
    (rival : kind ∈ rivals first) :
    kind.opensWithLetter = true ∧ first.isAlpha = true ∨
      kind.opensWithDigit = true ∧ first.isDigit = true := by
  have opening := mem_rivals_iff.mp rival
  simp only [opens, Bool.or_eq_true, Bool.and_eq_true, decide_eq_true_eq] at opening
  rcases opening with opening | member
  · exact opening
  · exact absurd member (notMem_openingMarks_of_isWordChar inWord kind)

theorem opensWithLetter_of_mem_rivals {kind : Kind} {first : Char} (letter : first.isAlpha = true)
    (rival : kind ∈ rivals first) : kind.opensWithLetter = true := by
  rcases opensWith_of_mem_rivals (isWordChar_of_isAlpha letter) rival with
    ⟨opening, -⟩ | ⟨-, digit⟩
  · exact opening
  · rw [isAlpha_eq_false_of_isDigit digit] at letter
    contradiction

theorem exists_number_of_mem_rivals {kind : Kind} {first : Char} (digit : first.isDigit = true)
    (rival : kind ∈ rivals first) : ∃ form, kind = .number form := by
  rcases opensWith_of_mem_rivals (isWordChar_of_isDigit digit) rival with
    ⟨-, letter⟩ | ⟨opening, -⟩
  · rw [isAlpha_eq_false_of_isDigit digit] at letter
    contradiction
  · cases kind with
    | number form => exact ⟨form, rfl⟩
    | trivia form => contradiction
    | punctuation form => contradiction
    | quoted form => contradiction
    | keyword word => contradiction
    | operator sign => contradiction
    | identifier => contradiction

theorem rivals_eq_nil {first : Char} (notAlpha : first.isAlpha = false)
    (notDigit : first.isDigit = false) (notMark : first ∉ marks) : rivals first = [] := by
  rw [rivals, List.filter_eq_nil_iff]
  intro kind _
  have notOpening : first ∉ kind.openingMarks := mt mem_marks_of_mem_openingMarks notMark
  simp [opens, notAlpha, notDigit, notOpening]

theorem word_eq_of_lexeme? {kind : Kind} (opening : kind.opensWithLetter = true)
    {text piece : List Char} (found : kind.lexeme? text = some piece) : word text = piece := by
  cases kind with
  | keyword keyword =>
      have taken : wordWhere? (· == keyword.spelling) text = some piece := found
      exact (wordWhere?_eq_some_iff.mp taken).2
  | identifier => exact (wordWhere?_eq_some_iff.mp found).2
  | trivia form => contradiction
  | punctuation form => contradiction
  | number form => contradiction
  | quoted form => contradiction
  | operator sign => contradiction

end Kind

theorem findSome?_filter_of_none {Item Answer : Type} {keeps : Item → Bool}
    {answer : Item → Option Answer} (items : List Item)
    (dropped : ∀ item, keeps item = false → answer item = none) :
    (items.filter keeps).findSome? answer = items.findSome? answer := by
  induction items with
  | nil => rfl
  | cons item later ih =>
      cases kept : keeps item with
      | true => simp only [List.filter_cons, kept, if_true, List.findSome?_cons, ih]
      | false =>
          simp only [List.filter_cons, kept, Bool.false_eq_true, if_false, List.findSome?_cons,
            dropped item kept, ih]

namespace Lexeme

/-- What is recognised at a place is what the first of its rivals recognises. -/
theorem first?_cons (previous : Option UInt8) (first : Char) (later : List Char) :
    first? previous (first :: later) =
      (Kind.rivals first).findSome? fun kind =>
        (kind.lexemeAfter? previous (first :: later)).map (⟨kind, ·⟩) := by
  rw [first?, Kind.rivals, findSome?_filter_of_none]
  intro kind notOpening
  rw [Option.map_eq_none_iff, Option.eq_none_iff_forall_not_mem]
  intro piece found
  have opening := Kind.opens_of_lexeme? (Kind.lexemeAfter?_eq_some_iff.mp found).2
  rw [notOpening] at opening
  contradiction

theorem first?_cons_eq_none_iff {previous : Option UInt8} {first : Char} {later : List Char} :
    first? previous (first :: later) = none ↔
      ∀ kind ∈ Kind.rivals first, kind.lexemeAfter? previous (first :: later) = none := by
  simp [first?_cons, List.findSome?_eq_none_iff]

end Lexeme

end Lexis
