import Lexis.Grammar

/-!
# The languages of the patterns

The patterns of the grammar are put together from a few shapes: characters of a class one after the
other, at least and at most so many; something or nothing; parts in order; and characters where a
backslash takes the next one along. Each shape is described here by a property of the text itself,
and from these the texts of every kind of number and of identifiers are read off.
-/

namespace Lexis

theorem isWordChar_of_isAlpha {char : Char} (letter : char.isAlpha = true) :
    isWordChar char = true := by
  simp [isWordChar, Char.isAlphanum, letter]

namespace Pattern

@[simp]
theorem matches_char {inClass : Char → Bool} {text : List Char} :
    (char inClass).Matches text ↔ ∃ char, text = [char] ∧ inClass char = true :=
  Iff.rfl

@[simp]
theorem matches_spelling {expected text : List Char} :
    (spelling expected).Matches text ↔ text = expected :=
  Iff.rfl

@[simp]
theorem matches_either {left right : Pattern} {text : List Char} :
    (either left right).Matches text ↔ left.Matches text ∨ right.Matches text :=
  Iff.rfl

@[simp]
theorem matches_inOrder_nil {text : List Char} : (inOrder []).Matches text ↔ text = [] :=
  Iff.rfl

theorem matches_inOrder_cons {first : Pattern} {later : List Pattern} {text : List Char} :
    (inOrder (first :: later)).Matches text ↔
      ∃ left right, text = left ++ right ∧ first.Matches left ∧ (inOrder later).Matches right :=
  Iff.rfl

@[simp]
theorem matches_inOrder_singleton {pattern : Pattern} {text : List Char} :
    (inOrder [pattern]).Matches text ↔ pattern.Matches text := by
  rw [matches_inOrder_cons]
  constructor
  · rintro ⟨left, right, rfl, leftMatches, rfl⟩
    simpa using leftMatches
  · intro whole
    exact ⟨text, [], by simp, whole, rfl⟩

theorem matches_spelling_inOrder {expected text : List Char} {later : List Pattern} :
    (inOrder (spelling expected :: later)).Matches text ↔
      ∃ right, text = expected ++ right ∧ (inOrder later).Matches right := by
  rw [matches_inOrder_cons]
  constructor
  · rintro ⟨left, right, parts, rfl, rightMatches⟩
    exact ⟨right, parts, rightMatches⟩
  · rintro ⟨right, parts, rightMatches⟩
    exact ⟨expected, right, parts, rfl, rightMatches⟩

theorem matches_char_inOrder {inClass : Char → Bool} {text : List Char} {later : List Pattern} :
    (inOrder (char inClass :: later)).Matches text ↔
      ∃ first right, text = first :: right ∧ inClass first = true ∧
        (inOrder later).Matches right := by
  rw [matches_inOrder_cons]
  constructor
  · rintro ⟨left, right, rfl, ⟨first, rfl, accepted⟩, rightMatches⟩
    exact ⟨first, right, rfl, accepted, rightMatches⟩
  · rintro ⟨first, right, rfl, accepted, rightMatches⟩
    exact ⟨[first], right, rfl, ⟨first, rfl, accepted⟩, rightMatches⟩

/-- A body between two marks. -/
theorem matches_enclosed {opening closing text : List Char} {body : Pattern} :
    (inOrder [spelling opening, body, spelling closing]).Matches text ↔
      ∃ inner, text = opening ++ (inner ++ closing) ∧ body.Matches inner := by
  rw [matches_spelling_inOrder]
  constructor
  · rintro ⟨right, rfl, rightMatches⟩
    rcases matches_inOrder_cons.mp rightMatches with ⟨inner, last, rfl, innerMatches, lastMatches⟩
    rw [matches_inOrder_singleton, matches_spelling] at lastMatches
    subst lastMatches
    exact ⟨inner, rfl, innerMatches⟩
  · rintro ⟨inner, rfl, innerMatches⟩
    refine ⟨inner ++ closing, rfl, ?_⟩
    exact matches_inOrder_cons.mpr
      ⟨inner, closing, rfl, innerMatches, matches_inOrder_singleton.mpr rfl⟩

/-- Characters of a class one after the other. -/
theorem matches_times_char {least : Nat} {most : Option Nat} {inClass : Char → Bool}
    {text : List Char} :
    ((char inClass).times least most).Matches text ↔
      text.all inClass = true ∧ least ≤ text.length ∧ ∀ bound ∈ most, text.length ≤ bound := by
  constructor
  · rintro ⟨parts, rfl, partsMatch, atLeast, atMost⟩
    have singles : ∃ chars : List Char, parts = chars.map ([·]) ∧ chars.all inClass = true := by
      clear atLeast atMost
      induction parts with
      | nil => exact ⟨[], rfl, rfl⟩
      | cons part later ih =>
          rcases partsMatch part (by simp) with ⟨char, rfl, accepted⟩
          rcases ih fun other member => partsMatch other (by simp [member]) with
            ⟨chars, rfl, allAccepted⟩
          exact ⟨char :: chars, rfl, by simp_all⟩
    rcases singles with ⟨chars, rfl, allAccepted⟩
    simp only [List.length_map] at atLeast atMost
    have flattened : (chars.map ([·])).flatten = chars := by
      rw [← List.flatMap_def, List.flatMap_singleton']
    rw [flattened]
    exact ⟨allAccepted, atLeast, atMost⟩
  · rintro ⟨accepted, atLeast, atMost⟩
    refine ⟨text.map ([·]), ?_, ?_, by simpa using atLeast, by simpa using atMost⟩
    · rw [← List.flatMap_def, List.flatMap_singleton']
    · intro part member
      rcases List.mem_map.mp member with ⟨char, charMember, rfl⟩
      exact ⟨char, rfl, List.all_eq_true.mp accepted char charMember⟩

theorem matches_zeroOrMore_char {inClass : Char → Bool} {text : List Char} :
    (char inClass).zeroOrMore.Matches text ↔ text.all inClass = true := by
  simp [zeroOrMore, matches_times_char]

theorem matches_oneOrMore_char {inClass : Char → Bool} {text : List Char} :
    (char inClass).oneOrMore.Matches text ↔ text ≠ [] ∧ text.all inClass = true := by
  simp only [oneOrMore, matches_times_char, Nat.succ_le_iff, List.length_pos_iff, Option.mem_def,
    reduceCtorEq, false_imp_iff, implies_true, and_true]
  exact And.comm

theorem matches_optional {pattern : Pattern} {text : List Char} :
    pattern.optional.Matches text ↔ text = [] ∨ pattern.Matches text := by
  constructor
  · rintro ⟨parts, rfl, partsMatch, -, atMost⟩
    have short : parts.length ≤ 1 := atMost 1 rfl
    rcases parts with _ | ⟨part, _ | ⟨next, later⟩⟩
    · exact Or.inl rfl
    · right
      simpa using partsMatch part (by simp)
    · simp at short
  · rintro (rfl | whole)
    · exact ⟨[], rfl, by simp, by simp, by simp⟩
    · exact ⟨[text], by simp, by simpa using whole, by simp, by simp⟩

theorem matches_zeroOrMore_nil {pattern : Pattern} : pattern.zeroOrMore.Matches [] :=
  ⟨[], rfl, by simp, by simp, by simp⟩

/-- Repetition takes its texts off the front one by one. -/
theorem matches_zeroOrMore_cons {pattern : Pattern} {first : Char} {later : List Char} :
    pattern.zeroOrMore.Matches (first :: later) ↔
      ∃ part rest, later = part ++ rest ∧ pattern.Matches (first :: part) ∧
        pattern.zeroOrMore.Matches rest := by
  constructor
  · rintro ⟨parts, flat, partsMatch, -, -⟩
    induction parts with
    | nil => simp at flat
    | cons part others ih =>
        cases part with
        | nil =>
            apply ih (by simpa using flat)
            intro other member
            exact partsMatch other (by simp [member])
        | cons head tail =>
            simp only [List.flatten_cons, List.cons_append, List.cons.injEq] at flat
            rcases flat with ⟨rfl, rfl⟩
            refine ⟨tail, others.flatten, rfl, partsMatch _ (by simp), others, rfl, ?_, by simp,
              by simp⟩
            intro other member
            exact partsMatch other (by simp [member])
  · rintro ⟨part, rest, rfl, firstMatches, ⟨parts, rfl, partsMatch, -, -⟩⟩
    refine ⟨(first :: part) :: parts, rfl, ?_, by simp, by simp⟩
    intro other member
    rcases List.mem_cons.mp member with rfl | member
    · exact firstMatches
    · exact partsMatch other member

/-- Characters of a class, among which a backslash takes along a character of another class. -/
theorem matches_zeroOrMore_escaping {plain escaped : Char → Bool} {first : Char}
    {later : List Char} :
    (either (char plain) (inOrder [spelling ['\\'], char escaped])).zeroOrMore.Matches
        (first :: later) ↔
      (plain first = true ∧
        (either (char plain) (inOrder [spelling ['\\'], char escaped])).zeroOrMore.Matches later) ∨
      (first = '\\' ∧ ∃ taken rest, later = taken :: rest ∧ escaped taken = true ∧
        (either (char plain) (inOrder [spelling ['\\'], char escaped])).zeroOrMore.Matches
          rest) := by
  rw [matches_zeroOrMore_cons]
  constructor
  · rintro ⟨part, rest, rfl, single | pair, restMatches⟩
    · rcases single with ⟨char, singleIs, accepted⟩
      rcases List.cons.inj singleIs with ⟨rfl, rfl⟩
      exact Or.inl ⟨accepted, restMatches⟩
    · rcases matches_spelling_inOrder.mp pair with ⟨right, pairIs, rightMatches⟩
      rcases matches_inOrder_singleton.mp rightMatches with ⟨taken, rfl, accepted⟩
      rcases List.cons.inj pairIs with ⟨rfl, rfl⟩
      exact Or.inr ⟨rfl, taken, rest, rfl, accepted, restMatches⟩
  · rintro (⟨accepted, laterMatches⟩ | ⟨rfl, taken, rest, rfl, accepted, restMatches⟩)
    · exact ⟨[], later, rfl, Or.inl ⟨first, rfl, accepted⟩, laterMatches⟩
    · refine ⟨[taken], rest, rfl, Or.inr ?_, restMatches⟩
      exact matches_spelling_inOrder.mpr
        ⟨[taken], rfl, matches_inOrder_singleton.mpr ⟨taken, rfl, accepted⟩⟩

theorem matches_stringChars_cons {first : Char} {later : List Char} :
    stringChar.zeroOrMore.Matches (first :: later) ↔
      ((first ≠ '"' ∧ first ≠ '\\' ∧ first ≠ '\n') ∧ stringChar.zeroOrMore.Matches later) ∨
      (first = '\\' ∧ ∃ taken rest, later = taken :: rest ∧ taken ≠ '\n' ∧
        stringChar.zeroOrMore.Matches rest) := by
  have cons := @matches_zeroOrMore_escaping (· ∉ ['"', '\\', '\n']) (· ∉ ['\n']) first later
  simpa [stringChar, noneOf] using cons

theorem matches_escapables_cons {first : Char} {later : List Char} :
    escapable.zeroOrMore.Matches (first :: later) ↔
      (first ≠ '\\' ∧ escapable.zeroOrMore.Matches later) ∨
      (first = '\\' ∧ ∃ taken rest, later = taken :: rest ∧ escapable.zeroOrMore.Matches rest) := by
  have cons := @matches_zeroOrMore_escaping (· ∉ ['\\']) (fun _ => true) first later
  simpa [escapable, noneOf] using cons

/-! ## Numbers and identifiers -/

theorem matches_digits {text : List Char} :
    digit.oneOrMore.Matches text ↔ NumberForm.isNumeral text = true := by
  rw [digit, matches_oneOrMore_char]
  simp [NumberForm.isNumeral]

theorem matches_limited_digits {limit : Nat} {text : List Char} :
    (digit.times 1 (some limit)).Matches text ↔ NumberForm.isShortNumeral limit text = true := by
  rw [digit, matches_times_char]
  simp only [Nat.succ_le_iff, List.length_pos_iff, Option.mem_def, Option.some.injEq,
    forall_eq', NumberForm.isShortNumeral, NumberForm.isNumeral, Bool.and_eq_true, bne_iff_ne,
    decide_eq_true_eq]
  rw [and_left_comm, and_assoc]

theorem matches_decimal {limit : Nat} {text : List Char} :
    (decimal limit).Matches text ↔
      ∃ whole part, text = whole ++ '.' :: part ∧
        NumberForm.isShortNumeral NumberForm.wholeLimit whole = true ∧
        NumberForm.isShortNumeral limit part = true := by
  rw [decimal, matches_inOrder_cons]
  constructor
  · rintro ⟨whole, right, rfl, wholeMatches, rightMatches⟩
    rcases matches_spelling_inOrder.mp rightMatches with ⟨part, rfl, partMatches⟩
    rw [matches_inOrder_singleton] at partMatches
    exact ⟨whole, part, rfl, matches_limited_digits.mp wholeMatches,
      matches_limited_digits.mp partMatches⟩
  · rintro ⟨whole, part, rfl, wholeShort, partShort⟩
    refine ⟨whole, '.' :: part, rfl, matches_limited_digits.mpr wholeShort, ?_⟩
    exact matches_spelling_inOrder.mpr
      ⟨part, rfl, matches_inOrder_singleton.mpr (matches_limited_digits.mpr partShort)⟩

theorem matches_octal {text : List Char} :
    (ofNumber .octal).Matches text ↔ NumberForm.isOctal text = true := by
  simp only [ofNumber, matches_spelling_inOrder, matches_inOrder_singleton,
    matches_oneOrMore_char]
  constructor
  · rintro ⟨later, rfl, nonempty, accepted⟩
    simp [NumberForm.isOctal, nonempty, accepted]
  · intro accepted
    unfold NumberForm.isOctal at accepted
    split at accepted
    next later => exact ⟨later, rfl, by simpa using accepted⟩
    · contradiction

theorem matches_hex {text : List Char} :
    (ofNumber .hex).Matches text ↔ NumberForm.isHex text = true := by
  simp only [ofNumber, oneOf, matches_spelling_inOrder, matches_char_inOrder,
    matches_inOrder_singleton, matches_oneOrMore_char]
  constructor
  · rintro ⟨right, rfl, letter, later, rfl, letterIs, nonempty, accepted⟩
    simp only [List.mem_cons, List.not_mem_nil, or_false, decide_eq_true_eq] at letterIs
    rcases letterIs with rfl | rfl <;> simp [NumberForm.isHex, nonempty, accepted]
  · intro accepted
    unfold NumberForm.isHex at accepted
    split at accepted
    next later => exact ⟨_, rfl, 'x', later, rfl, by decide, by simpa using accepted⟩
    next later => exact ⟨_, rfl, 'X', later, rfl, by decide, by simpa using accepted⟩
    · contradiction

theorem matches_binary {text : List Char} :
    (ofNumber .binary).Matches text ↔ NumberForm.isBinary text = true := by
  simp only [ofNumber, oneOf, matches_spelling_inOrder, matches_char_inOrder,
    matches_inOrder_singleton, matches_oneOrMore_char]
  constructor
  · rintro ⟨right, rfl, letter, later, rfl, letterIs, nonempty, accepted⟩
    simp only [List.mem_cons, List.not_mem_nil, or_false, decide_eq_true_eq] at letterIs
    rcases letterIs with rfl | rfl <;> simp [NumberForm.isBinary, nonempty, accepted]
  · intro accepted
    unfold NumberForm.isBinary at accepted
    split at accepted
    next later => exact ⟨_, rfl, 'b', later, rfl, by decide, by simpa using accepted⟩
    next later => exact ⟨_, rfl, 'B', later, rfl, by decide, by simpa using accepted⟩
    · contradiction

theorem matches_optionalSign {text : List Char} :
    optionalSign.Matches text ↔ text = [] ∨ text = ['+'] ∨ text = ['-'] := by
  simp only [optionalSign, oneOf, matches_optional, matches_char, List.mem_cons, List.not_mem_nil,
    or_false, decide_eq_true_eq]
  constructor
  · rintro (rfl | ⟨char, rfl, rfl | rfl⟩) <;> simp
  · rintro (rfl | rfl | rfl) <;> simp

/-- A point and digits, or nothing. -/
def IsFraction (text : List Char) : Prop :=
  text = [] ∨ ∃ part, text = '.' :: part ∧ NumberForm.isNumeral part = true

/-- The letter `e` in either case, perhaps a sign, and digits. -/
def IsExponent (text : List Char) : Prop :=
  ∃ letter signed power, text = letter :: (signed ++ power) ∧ (letter = 'e' ∨ letter = 'E') ∧
    optionalSign.Matches signed ∧ NumberForm.isNumeral power = true

theorem matches_scientific {text : List Char} :
    (ofNumber .scientific).Matches text ↔
      ∃ signed whole part exponent, text = signed ++ (whole ++ (part ++ exponent)) ∧
        optionalSign.Matches signed ∧ NumberForm.isNumeral whole = true ∧ IsFraction part ∧
        IsExponent exponent := by
  have fraction {part : List Char} :
      (inOrder [spelling ['.'], digit.oneOrMore]).optional.Matches part ↔ IsFraction part := by
    simp [matches_optional, matches_spelling_inOrder, matches_digits, IsFraction]
  have exponent {text : List Char} :
      (inOrder [oneOf ['e', 'E'], optionalSign, digit.oneOrMore]).Matches text ↔
        IsExponent text := by
    simp only [oneOf, matches_char_inOrder, @matches_inOrder_cons optionalSign,
      matches_inOrder_singleton, matches_digits, IsExponent, List.mem_cons, List.not_mem_nil,
      or_false, decide_eq_true_eq]
    constructor
    · rintro ⟨letter, right, rfl, letterIs, signed, power, rfl, signedIs, powerIs⟩
      exact ⟨letter, signed, power, rfl, letterIs, signedIs, powerIs⟩
    · rintro ⟨letter, signed, power, rfl, letterIs, signedIs, powerIs⟩
      exact ⟨letter, _, rfl, letterIs, signed, power, rfl, signedIs, powerIs⟩
  simp only [ofNumber]
  rw [matches_inOrder_cons]
  constructor
  · rintro ⟨signed, afterSign, rfl, signedIs, whole, afterWhole, rfl, wholeIs, part, afterPart, rfl,
      partIs, exponentIs⟩
    exact ⟨signed, whole, part, afterPart, rfl, signedIs, matches_digits.mp wholeIs,
      fraction.mp partIs, exponent.mp exponentIs⟩
  · rintro ⟨signed, whole, part, afterPart, rfl, signedIs, wholeIs, partIs, exponentIs⟩
    exact ⟨signed, _, rfl, signedIs, whole, _, rfl, matches_digits.mpr wholeIs, part, afterPart,
      rfl, fraction.mpr partIs, exponent.mpr exponentIs⟩

theorem matches_identifier {text : List Char} :
    ofIdentifier.Matches text ↔ isIdentifier text = true ∧ text.all isWordChar = true := by
  simp only [ofIdentifier, matches_char_inOrder, matches_inOrder_singleton, matches_times_char,
    Option.mem_def, Option.some.injEq, forall_eq', Nat.zero_le, true_and]
  constructor
  · rintro ⟨first, later, rfl, letter, wordChars, short⟩
    refine ⟨?_, by simp [isWordChar_of_isAlpha letter, wordChars]⟩
    simp only [isIdentifier, letter, Bool.true_and, decide_eq_true_eq]
    simp only [identifierLimit] at short ⊢
    omega
  · rintro ⟨accepted, wordChars⟩
    cases text with
    | nil => exact absurd accepted (by decide)
    | cons first later =>
        simp only [isIdentifier, Bool.and_eq_true, decide_eq_true_eq] at accepted
        simp only [List.all_cons, Bool.and_eq_true] at wordChars
        refine ⟨first, later, rfl, accepted.1, wordChars.2, ?_⟩
        have short := accepted.2
        omega

end Pattern

end Lexis
