import Lexis.Proofs.Failures

/-!
# Which number stands at a digit

Seven forms of numbers compete where a digit stands and no word goes on, and no other kind does.
They are tried in order, so which of them is found is a matter of cases: scientific notation wins
over everything, an octal number over a fraction that begins with it, a short fraction over a long
one, and a fraction over its whole part. Hexadecimal and binary numbers have a letter and meet none
of the others, and what is none of the seven is no number at all.

`NumberAt` lists the cases with the condition of each, among them that the earlier cases do not
apply. Exactly one of them applies, and it is what is recognised.
-/

namespace Lexis

/-- A run of so many digits. -/
def HasDigits (least most : Nat) (text : List Char) : Prop :=
  least ≤ text.length ∧ text.length ≤ most ∧ text.all Char.isDigit = true

namespace NumberForm

/-- The form and the number of bytes of the number at the start of a text that opens with a digit,
or nothing where no number starts. -/
inductive NumberAt (text : List Char) : Option (NumberForm × Nat) → Prop where
  | scientific {whole part exponent rest : List Char}
      (parts : text = whole ++ part ++ exponent ++ rest) (numeral : isNumeral whole = true)
      (isFraction : Pattern.IsFraction part) (isExponent : Pattern.IsExponent exponent)
      (stops : rest.head?.any isWordChar = false) :
      NumberAt text (some (.scientific, Text.size (whole ++ part ++ exponent)))
  | octal (notScientific : ¬StartsScientific text) (isOctal : isOctal (word text) = true) :
      NumberAt text (some (.octal, Text.size (word text)))
  | float {later : List Char} (notScientific : ¬StartsScientific text)
      (notOctal : isOctal (word text) = false) (whole : HasDigits 1 9 (word text))
      (point : text = word text ++ '.' :: later) (part : HasDigits 1 16 (word later)) :
      NumberAt text (some (.float, Text.size (word text) + 1 + Text.size (word later)))
  | double {later : List Char} (notScientific : ¬StartsScientific text)
      (notOctal : isOctal (word text) = false) (whole : HasDigits 1 9 (word text))
      (point : text = word text ++ '.' :: later) (part : HasDigits 17 32 (word later)) :
      NumberAt text (some (.double, Text.size (word text) + 1 + Text.size (word later)))
  | int (notScientific : ¬StartsScientific text) (notOctal : isOctal (word text) = false)
      (whole : HasDigits 1 9 (word text))
      (noFraction : ∀ later, text = word text ++ '.' :: later → ¬HasDigits 1 32 (word later)) :
      NumberAt text (some (.int, Text.size (word text)))
  | hex (notScientific : ¬StartsScientific text) (notOctal : isOctal (word text) = false)
      (notWhole : ¬HasDigits 1 9 (word text)) (isHex : isHex (word text) = true) :
      NumberAt text (some (.hex, Text.size (word text)))
  | binary (notScientific : ¬StartsScientific text) (notOctal : isOctal (word text) = false)
      (notWhole : ¬HasDigits 1 9 (word text)) (notHex : isHex (word text) = false)
      (isBinary : isBinary (word text) = true) :
      NumberAt text (some (.binary, Text.size (word text)))
  | nothing (notScientific : ¬StartsScientific text) (notOctal : isOctal (word text) = false)
      (notWhole : ¬HasDigits 1 9 (word text)) (notHex : isHex (word text) = false)
      (notBinary : isBinary (word text) = false) : NumberAt text none

/-- One of the cases applies to every text. -/
theorem exists_numberAt (text : List Char) : ∃ answer, NumberAt text answer := by
  rcases Classical.em (StartsScientific text) with starts | notScientific
  · rcases starts with ⟨whole, part, exponent, rest, parts, numeral, isFraction, isExponent, stops⟩
    exact ⟨_, .scientific parts numeral isFraction isExponent stops⟩
  cases octal : isOctal (word text) with
  | true => exact ⟨_, .octal notScientific octal⟩
  | false =>
      rcases Classical.em (HasDigits 1 9 (word text)) with whole | notWhole
      · rcases Classical.em (∃ later, text = word text ++ '.' :: later ∧
          HasDigits 1 32 (word later)) with ⟨later, point, positive, short, digits⟩ | noFraction
        · rcases Nat.lt_or_ge 16 (word later).length with long | fits
          · exact ⟨_, .double notScientific octal whole point ⟨long, short, digits⟩⟩
          · exact ⟨_, .float notScientific octal whole point ⟨positive, fits, digits⟩⟩
        · simp only [not_exists, not_and] at noFraction
          exact ⟨_, .int notScientific octal whole noFraction⟩
      · cases hex : isHex (word text) with
        | true => exact ⟨_, .hex notScientific octal notWhole hex⟩
        | false =>
            cases binary : isBinary (word text) with
            | true => exact ⟨_, .binary notScientific octal notWhole hex binary⟩
            | false => exact ⟨_, .nothing notScientific octal notWhole hex binary⟩

end NumberForm

/-! ## The seven rivals -/

namespace Kind

/-- The kinds that compete at a digit are the forms of numbers. -/
theorem rivals_of_isDigit {first : Char} (digit : first.isDigit = true) :
    rivals first = NumberForm.all.map .number := by
  have opensIff (kind : Kind) : kind.opens first = kind.opensWithDigit := by
    cases opening : kind.opensWithDigit with
    | true => exact opens_of_isDigit opening digit
    | false =>
        simp [opens, opening, isAlpha_eq_false_of_isDigit digit,
          notMem_openingMarks_of_isWordChar (isWordChar_of_isDigit digit) kind]
  have numbers : all.filter opensWithDigit = NumberForm.all.map .number := by decide
  rw [rivals, ← numbers]
  exact List.filter_congr fun kind _ => opensIff kind

end Kind

namespace Lexeme

/-- What is recognised at a digit where no word goes on is the first form of a number that is
recognised there. -/
theorem first?_of_isDigit {previous : Option UInt8} {first : Char} {later : List Char}
    (digit : first.isDigit = true) (notInWord : previous.any isWordByte = false) :
    first? previous (first :: later) =
      NumberForm.all.findSome? fun form =>
        (form.lexeme? (first :: later)).map (⟨.number form, ·⟩) := by
  rw [first?_cons, Kind.rivals_of_isDigit digit, List.findSome?_map]
  congr 1
  funext form
  rw [Function.comp_apply, Kind.lexemeAfter?_of_notInWord notInWord (isWordChar_of_isDigit digit)]
  rfl

end Lexeme

namespace NumberForm

variable {text : List Char}

theorem isShortNumeral_iff_hasDigits {most : Nat} :
    isShortNumeral most text = true ↔ HasDigits 1 most text :=
  isShortNumeral_iff

theorem decimal?_eq_none_of_not_whole {limit : Nat} (notWhole : ¬HasDigits 1 9 (word text)) :
    decimal? limit text = none := by
  rw [Option.eq_none_iff_forall_not_mem]
  intro piece found
  rcases decimal?_eq_some_iff.mp found with ⟨later, -, whole, -, -⟩
  exact notWhole (isShortNumeral_iff_hasDigits.mp whole)

theorem decimal?_eq_none_of_not_part {limit : Nat}
    (noFraction : ∀ later, text = word text ++ '.' :: later → ¬HasDigits 1 limit (word later)) :
    decimal? limit text = none := by
  rw [Option.eq_none_iff_forall_not_mem]
  intro piece found
  rcases decimal?_eq_some_iff.mp found with ⟨later, point, -, part, -⟩
  exact noFraction later point (isShortNumeral_iff_hasDigits.mp part)

theorem scientific?_eq_none_of_not_starts {first : Char} {later : List Char}
    (digit : first.isDigit = true) (notScientific : ¬StartsScientific (first :: later)) :
    scientific? (first :: later) = none := by
  rw [startsScientific_iff digit, not_exists] at notScientific
  rw [Option.eq_none_iff_forall_not_mem]
  exact notScientific

theorem decimal?_of_parts {limit : Nat} {later : List Char}
    (point : text = word text ++ '.' :: later) (whole : HasDigits 1 9 (word text))
    (part : HasDigits 1 limit (word later)) :
    decimal? limit text = some (word text ++ '.' :: word later) :=
  decimal?_eq_some_iff.mpr ⟨later, point, isShortNumeral_iff_hasDigits.mpr whole,
    isShortNumeral_iff_hasDigits.mpr part, rfl⟩

/-- Without a whole part of a fraction only the numbers with a letter are left. -/
theorem findSome?_of_not_whole {Answer : Type} {answer : NumberForm → List Char → Answer}
    (notScientific : scientific? text = none) (notOctal : isOctal (word text) = false)
    (notWhole : ¬HasDigits 1 9 (word text)) :
    (all.findSome? fun form => (form.lexeme? text).map (answer form)) =
      [hex, binary].findSome? fun form => (form.lexeme? text).map (answer form) := by
  have notInt : isShortNumeral wholeLimit (word text) = false :=
    Bool.eq_false_iff.mpr (mt isShortNumeral_iff_hasDigits.mp notWhole)
  simp [all, lexeme?, notScientific, notOctal, notInt, wordWhere?,
    decimal?_eq_none_of_not_whole notWhole]

/-- The case that applies to a text that opens with a digit tells which form is recognised first. -/
theorem NumberAt.findSome?_eq {first : Char} {later : List Char} (digit : first.isDigit = true)
    {answer : Option (NumberForm × Nat)} (number : NumberAt (first :: later) answer) :
    (NumberForm.all.findSome? fun form =>
      (form.lexeme? (first :: later)).map fun piece => (form, Text.size piece)) = answer := by
  have scientificFails := @scientific?_eq_none_of_not_starts first later digit
  have pointSize (part : List Char) : Text.size ('.' :: part) = 1 + Text.size part := rfl
  cases number with
  | @scientific whole part exponent rest parts numeral isFraction isExponent stops =>
      have inLanguage : (Pattern.ofNumber .scientific).Matches (whole ++ part ++ exponent) :=
        Pattern.matches_scientific.mpr ⟨[], whole, part, exponent, by simp,
          Pattern.matches_optionalSign.mpr (Or.inl rfl), numeral, isFraction, isExponent⟩
      have found := scientific?_eq_some_iff.mpr ⟨inLanguage, rest, parts, stops⟩
      simp [all, lexeme?, found]
  | octal notScientific isOctal =>
      simp [all, lexeme?, scientificFails notScientific, wordWhere?, isOctal]
  | @float fractional notScientific notOctal whole point part =>
      have found : decimal? floatLimit (first :: later) = _ := decimal?_of_parts point whole part
      simp [all, lexeme?, scientificFails notScientific, wordWhere?, notOctal, found, pointSize,
        Nat.add_assoc]
  | @double fractional notScientific notOctal whole point part =>
      have tooLong : decimal? floatLimit (first :: later) = none := by
        apply decimal?_eq_none_of_not_part
        intro other otherPoint short
        have same := List.append_cancel_left (point.symm.trans otherPoint)
        rw [← (List.cons.inj same).2] at short
        exact absurd (Nat.le_trans part.1 short.2.1) (by decide)
      have partDigits : HasDigits 1 doubleLimit (word fractional) :=
        ⟨Nat.le_trans (by decide) part.1, part.2⟩
      have found := decimal?_of_parts point whole partDigits
      simp [all, lexeme?, scientificFails notScientific, wordWhere?, notOctal, tooLong, found,
        pointSize, Nat.add_assoc]
  | int notScientific notOctal whole noFraction =>
      have noDouble : decimal? doubleLimit (first :: later) = none :=
        decimal?_eq_none_of_not_part noFraction
      have noFloat : decimal? floatLimit (first :: later) = none := by
        apply decimal?_eq_none_of_not_part
        intro fractional point short
        exact noFraction fractional point ⟨short.1, Nat.le_trans short.2.1 (by decide), short.2.2⟩
      have isInt : isShortNumeral wholeLimit (word (first :: later)) = true :=
        isShortNumeral_iff_hasDigits.mpr whole
      simp [all, lexeme?, scientificFails notScientific, wordWhere?, notOctal, noFloat, noDouble,
        isInt]
  | hex notScientific notOctal notWhole isHex =>
      rw [findSome?_of_not_whole (scientificFails notScientific) notOctal notWhole]
      simp [lexeme?, wordWhere?, isHex]
  | binary notScientific notOctal notWhole notHex isBinary =>
      rw [findSome?_of_not_whole (scientificFails notScientific) notOctal notWhole]
      simp [lexeme?, wordWhere?, notHex, isBinary]
  | nothing notScientific notOctal notWhole notHex notBinary =>
      rw [findSome?_of_not_whole (scientificFails notScientific) notOctal notWhole]
      simp [lexeme?, wordWhere?, notHex, notBinary]

end NumberForm

/-! ## Numbers in a source -/

/-- The byte of a decimal digit. -/
def isDigitByte (byte : UInt8) : Bool :=
  (Char.ofUInt8 byte).isDigit

/-- The bytes of the word at the start of a text are the word bytes at its start. -/
theorem bytes_word (text : List Char) :
    Text.bytes (word text) = (Text.bytes text).takeWhile isWordByte := by
  induction text with
  | nil => rfl
  | cons first later ih =>
      have sameClass := Text.any_isWordByte_utf8EncodeChar_head? first
      cases inWord : isWordChar first with
      | true =>
          rw [Text.utf8EncodeChar_of_ascii (ascii_of_isWordChar inWord), inWord] at sameClass
          simp only [List.head?_cons, Option.any_some] at sameClass
          rw [word, List.takeWhile_cons_of_pos inWord, Text.bytes_cons, Text.bytes_cons,
            Text.utf8EncodeChar_of_ascii (ascii_of_isWordChar inWord), List.singleton_append,
            List.singleton_append, List.takeWhile_cons_of_pos sameClass, ← ih, word]
      | false =>
          rw [List.head?_eq_some_head (Text.utf8EncodeChar_ne_nil first), Option.any_some,
            inWord] at sameClass
          rw [word, List.takeWhile_cons_of_neg (by simp [inWord]), Text.bytes_cons,
            ← List.cons_head_tail (Text.utf8EncodeChar_ne_nil first), List.cons_append,
            List.takeWhile_cons_of_neg (by simp [sameClass])]
          rfl

/-- At a digit that does not carry on a word, exactly one case of `NumberAt` applies, and what is
recognised is the number of that case, or nothing where it is the case without a number. -/
theorem lexemeAt_of_digit {content : String} {offset : Nat} {byte : UInt8}
    (atOffset : (Text.bytes content.toList)[offset]? = some byte)
    (digit : isDigitByte byte = true)
    (notInWord : 0 < offset → ((Text.bytes content.toList)[offset - 1]?).any isWordByte = false) :
    ∃ before rest answer, cutAt content offset = .ok (before, rest) ∧
      Text.bytes (word rest) = (Text.bytes rest).takeWhile isWordByte ∧
      NumberForm.NumberAt rest answer ∧
      (∀ other, NumberForm.NumberAt rest other → other = answer) ∧
      lexemeAt content offset =
        .ok (answer.map fun (form, length) => (.number form, length)) := by
  have ascii : byte.toNat < 128 := ascii_of_isWordChar (isWordChar_of_isDigit digit)
  rcases exists_cutAt_of_ascii atOffset ascii with ⟨before, later, cut⟩
  rcases cutAt_eq_ok_iff.mp cut with ⟨parts, placed⟩
  have previousNotInWord : (Text.lastByte? before).any isWordByte = false := by
    rcases Decidable.em (before = []) with rfl | nonempty
    · rfl
    · have positive := Text.size_pos nonempty
      rw [placed] at positive
      have last := notInWord positive
      rwa [parts, ← placed, Text.getElem?_bytes_before_cut nonempty] at last
  rcases NumberForm.exists_numberAt (Char.ofUInt8 byte :: later) with ⟨answer, number⟩
  have found := number.findSome?_eq digit
  refine ⟨before, _, answer, cut, bytes_word _, number, ?_, ?_⟩
  · intro other otherNumber
    exact (otherNumber.findSome?_eq digit).symm.trans found
  · rw [← placed, lexemeAt_of_parts parts (List.cons_ne_nil _ _),
      Lexeme.first?_of_isDigit digit previousNotInWord, ← found, List.map_findSome?,
      List.map_findSome?]
    simp only [Function.comp_def, Option.map_map]

/-- An octal number wins over the fraction that begins with it. -/
theorem lexemeAt_of_digit_of_octal_fraction :
    let content : String := "x=01.5"
    (Text.bytes content.toList)[2]? = some 48 ∧ isDigitByte 48 = true ∧
      (0 < 2 → ((Text.bytes content.toList)[2 - 1]?).any isWordByte = false) ∧
      ∃ before rest answer, cutAt content 2 = .ok (before, rest) ∧
        Text.bytes (word rest) = (Text.bytes rest).takeWhile isWordByte ∧
        NumberForm.NumberAt rest answer ∧
        (∀ other, NumberForm.NumberAt rest other → other = answer) ∧
        lexemeAt content 2 = .ok (answer.map fun (form, length) => (.number form, length)) := by
  intro content
  have atOffset : (Text.bytes content.toList)[2]? = some 48 := by decide +kernel
  have digit : isDigitByte 48 = true := by decide
  have notInWord : 0 < 2 → ((Text.bytes content.toList)[2 - 1]?).any isWordByte = false := by
    decide +kernel
  exact ⟨atOffset, digit, notInWord, lexemeAt_of_digit atOffset digit notInWord⟩

end Lexis
