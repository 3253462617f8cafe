import Lexis.Proofs.Endings
import Lexis.Proofs.NumberForms

/-!
# Which word stands at a letter

Where a letter stands and no word goes on, only reserved words and identifiers compete, and each of
them takes the whole word or nothing. So there is nothing to be compared but the word: it is a
reserved word if it is spelled like one, since the spellings differ and identifiers come last; it is
an identifier if it keeps to the limit; and a word that is too long is nothing, for no kind takes a
part of it.
-/

namespace Lexis

namespace Keyword

theorem spelling_injective {left right : Keyword} (same : left.spelling = right.spelling) :
    left = right := by
  have distinct : ∀ left ∈ all, ∀ right ∈ all, left.spelling = right.spelling → left = right := by
    decide
  have listed (keyword : Keyword) : keyword ∈ all := by cases keyword <;> decide
  exact distinct left (listed left) right (listed right) same

theorem lexeme?_eq_some_iff {keyword : Keyword} {text piece : List Char} :
    keyword.lexeme? text = some piece ↔ word text = keyword.spelling ∧ word text = piece := by
  rw [lexeme?, wordWhere?_eq_some_iff, beq_iff_eq]
  constructor
  · rintro ⟨spelled, rfl⟩
    exact ⟨spelled, rfl⟩
  · rintro ⟨spelled, rfl⟩
    exact ⟨spelled, rfl⟩

end Keyword

namespace Kind

variable {kind : Kind} {previous : Option UInt8} {first : Char} {later piece : List Char}

/-- At a letter no kind takes anything but the whole word. -/
theorem eq_word_of_lexemeAfter? (letter : first.isAlpha = true)
    (found : kind.lexemeAfter? previous (first :: later) = some piece) :
    piece = word (first :: later) := by
  have rival := mem_rivals_of_lexemeAfter? found
  have opening := opensWithLetter_of_mem_rivals letter rival
  exact (word_eq_of_lexeme? opening (lexemeAfter?_eq_some_iff.mp found).2).symm

/-- At a letter stands an identifier or the reserved word that is spelled so. -/
theorem eq_identifier_or_of_lexemeAfter? (letter : first.isAlpha = true)
    (found : kind.lexemeAfter? previous (first :: later) = some piece) :
    kind = .identifier ∨ ∃ keyword, kind = .keyword keyword ∧
      word (first :: later) = keyword.spelling := by
  have rival := mem_rivals_of_lexemeAfter? found
  have opening := opensWithLetter_of_mem_rivals letter rival
  cases kind with
  | keyword keyword =>
      have taken : keyword.lexeme? (first :: later) = some piece :=
        (lexemeAfter?_eq_some_iff.mp found).2
      exact Or.inr ⟨keyword, rfl, (Keyword.lexeme?_eq_some_iff.mp taken).1⟩
  | identifier => exact Or.inl rfl
  | trivia form => contradiction
  | punctuation form => contradiction
  | number form => contradiction
  | quoted form => contradiction
  | operator sign => contradiction

theorem rank_keyword_lt_rank_identifier (keyword : Keyword) :
    (Kind.keyword keyword).rank < Kind.identifier.rank := by
  cases keyword <;> decide

end Kind

namespace Lexeme

variable {previous : Option UInt8} {first : Char} {later : List Char}

theorem first?_of_keyword (letter : first.isAlpha = true)
    (notInWord : previous.any isWordByte = false) {keyword : Keyword}
    (spelled : word (first :: later) = keyword.spelling) :
    first? previous (first :: later) = some ⟨.keyword keyword, word (first :: later)⟩ := by
  apply first?_eq_some_iff.mpr
  constructor
  · rw [Kind.lexemeAfter?_of_notInWord notInWord (isWordChar_of_isAlpha letter)]
    exact Keyword.lexeme?_eq_some_iff.mpr ⟨spelled, rfl⟩
  · intro kind before
    rw [Option.eq_none_iff_forall_not_mem]
    intro piece found
    -- an earlier kind could only be a reserved word with the same spelling
    rcases Kind.eq_identifier_or_of_lexemeAfter? letter found with rfl | ⟨other, rfl, otherSpelled⟩
    · exact Nat.lt_asymm before (Kind.rank_keyword_lt_rank_identifier keyword)
    · rcases Keyword.spelling_injective (otherSpelled.symm.trans spelled) with rfl
      exact Nat.lt_irrefl _ before

theorem first?_of_identifier (letter : first.isAlpha = true)
    (notInWord : previous.any isWordByte = false)
    (notReserved : ∀ keyword : Keyword, word (first :: later) ≠ keyword.spelling)
    (short : Text.size (word (first :: later)) ≤ 32) :
    first? previous (first :: later) = some ⟨.identifier, word (first :: later)⟩ := by
  apply first?_eq_some_iff.mpr
  constructor
  · rw [Kind.lexemeAfter?_of_notInWord notInWord (isWordChar_of_isAlpha letter)]
    cases found : Kind.identifier.lexeme? (first :: later) with
    | none =>
        have long := Kind.lt_size_word_of_identifier?_eq_none letter found
        omega
    | some piece => rw [Kind.word_eq_of_lexeme? rfl found]
  · intro kind before
    rw [Option.eq_none_iff_forall_not_mem]
    intro piece found
    rcases Kind.eq_identifier_or_of_lexemeAfter? letter found with rfl | ⟨keyword, rfl, spelled⟩
    · exact Nat.lt_irrefl _ before
    · exact notReserved keyword spelled

end Lexeme

/-! ## Words in a source -/

/-- The byte of an ASCII letter. -/
def isLetterByte (byte : UInt8) : Bool :=
  (Char.ofUInt8 byte).isAlpha

/-- In front of an ASCII byte that is not behind a word byte, a text can be cut, and what stands
before the cut does not end in a word. -/
theorem exists_cutAt_of_notInWord {content : String} {offset : Nat} {byte : UInt8}
    (atOffset : (Text.bytes content.toList)[offset]? = some byte) (ascii : byte.toNat < 128)
    (notInWord : 0 < offset → ((Text.bytes content.toList)[offset - 1]?).any isWordByte = false) :
    ∃ before later, cutAt content offset = .ok (before, Char.ofUInt8 byte :: later) ∧
      (Text.lastByte? before).any isWordByte = false := by
  rcases exists_cutAt_of_ascii atOffset ascii with ⟨before, later, cut⟩
  rcases cutAt_eq_ok_iff.mp cut with ⟨parts, placed⟩
  refine ⟨before, later, cut, ?_⟩
  rcases Decidable.em (before = []) with rfl | nonempty
  · rfl
  · have positive := Text.size_pos nonempty
    rw [placed] at positive
    have last := notInWord positive
    rwa [parts, ← placed, Text.getElem?_bytes_before_cut nonempty] at last

/-- At a letter that does not carry on a word, what is recognised is decided by the word that starts
there: the reserved word that is spelled so, an identifier of at most 32 bytes, or nothing where the
word is longer. No kind takes a shorter piece of the word, behind whatever byte. -/
theorem lexemeAt_of_letter {content : String} {offset : Nat} {byte : UInt8}
    (atOffset : (Text.bytes content.toList)[offset]? = some byte)
    (letter : isLetterByte byte = true)
    (notInWord : 0 < offset → ((Text.bytes content.toList)[offset - 1]?).any isWordByte = false) :
    ∃ before rest, cutAt content offset = .ok (before, rest) ∧
      Text.bytes (word rest) = (Text.bytes rest).takeWhile isWordByte ∧
      (∀ keyword : Keyword, word rest = keyword.spelling →
        lexemeAt content offset = .ok (some (.keyword keyword, Text.size (word rest)))) ∧
      ((∀ keyword : Keyword, word rest ≠ keyword.spelling) → Text.size (word rest) ≤ 32 →
        lexemeAt content offset = .ok (some (.identifier, Text.size (word rest)))) ∧
      (32 < Text.size (word rest) → lexemeAt content offset = .ok none) ∧
      ∀ (kind : Kind) previous piece, kind.lexemeAfter? previous rest = some piece →
        piece = word rest := by
  have ascii : byte.toNat < 128 := ascii_of_isWordChar (isWordChar_of_isAlpha letter)
  rcases exists_cutAt_of_notInWord atOffset ascii notInWord with
    ⟨before, later, cut, previousNotInWord⟩
  rcases cutAt_eq_ok_iff.mp cut with ⟨parts, placed⟩
  have here := lexemeAt_of_parts parts (List.cons_ne_nil _ later)
  rw [placed] at here
  refine ⟨before, _, cut, bytes_word _, ?_, ?_, ?_, ?_⟩
  · intro keyword spelled
    rw [here, Lexeme.first?_of_keyword letter previousNotInWord spelled, Option.map_some]
  · intro notReserved short
    rw [here, Lexeme.first?_of_identifier letter previousNotInWord notReserved short,
      Option.map_some]
  · intro long
    rw [here, first?_eq_none_of_stuck (.longWord letter long), Option.map_none]
  · intro kind previous piece found
    exact Kind.eq_word_of_lexemeAfter? letter found

/-- A character outside ASCII ends a reserved word. -/
theorem lexemeAt_of_letter_of_class :
    let content : String := "+classé"
    (Text.bytes content.toList)[1]? = some 99 ∧ isLetterByte 99 = true ∧
      (0 < 1 → ((Text.bytes content.toList)[1 - 1]?).any isWordByte = false) ∧
      ∃ before rest, cutAt content 1 = .ok (before, rest) ∧
        Text.bytes (word rest) = (Text.bytes rest).takeWhile isWordByte ∧
        (∀ keyword : Keyword, word rest = keyword.spelling →
          lexemeAt content 1 = .ok (some (.keyword keyword, Text.size (word rest)))) ∧
        ((∀ keyword : Keyword, word rest ≠ keyword.spelling) → Text.size (word rest) ≤ 32 →
          lexemeAt content 1 = .ok (some (.identifier, Text.size (word rest)))) ∧
        (32 < Text.size (word rest) → lexemeAt content 1 = .ok none) ∧
        ∀ (kind : Kind) previous piece, kind.lexemeAfter? previous rest = some piece →
          piece = word rest := by
  intro content
  have atOffset : (Text.bytes content.toList)[1]? = some 99 := by decide +kernel
  have letter : isLetterByte 99 = true := by decide
  have notInWord : 0 < 1 → ((Text.bytes content.toList)[1 - 1]?).any isWordByte = false := by
    decide +kernel
  exact ⟨atOffset, letter, notInWord, lexemeAt_of_letter atOffset letter notInWord⟩

end Lexis
