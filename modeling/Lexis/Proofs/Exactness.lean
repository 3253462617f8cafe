import Lexis.Proofs.Cuts
import Lexis.Proofs.Delimited
import Mathlib.Order.Bounds.Basic

/-!
# Every kind recognises the language of its pattern

`Kind.lengths` says without reference to any recogniser which numbers of bytes a lexeme of a kind
may have at the start of a text: so many bytes must be cut off between two characters, what is cut
off must match the pattern of the kind, and for a word-bounded kind the cut must lie at an edge of a
word. The main statement is that a kind recognises nothing where there is no such number or where
the byte before the text forbids it, and otherwise the least number for block comments and text
blocks and the greatest for all other kinds.
-/

namespace Lexis

/-- Exactly one of the bytes before and behind an offset is a word byte. -/
def EdgeAt (source : List UInt8) (offset : Nat) : Prop :=
  (source[offset - 1]?).any isWordByte ≠ (source[offset]?).any isWordByte

namespace Kind

/-- The numbers of bytes that a lexeme of a kind may have at the start of a text. -/
def lengths (kind : Kind) (text : List Char) : Set Nat :=
  {length | 0 < length ∧
    (∃ piece rest, Text.splitAtByte? text length = some (piece, rest) ∧
      kind.pattern.Matches piece) ∧
    (kind.isWordBounded = true → EdgeAt (Text.bytes text) length)}

/-- The bytes on the two sides of a cut are word bytes where the characters there are word
characters. -/
theorem edgeAt_iff_atWordEdge {piece rest : List Char} (nonempty : piece ≠ []) :
    EdgeAt (Text.bytes (piece ++ rest)) (Text.size piece) ↔ AtWordEdge piece rest := by
  have positive := Text.size_pos nonempty
  have before : (Text.bytes (piece ++ rest))[Text.size piece - 1]? = Text.lastByte? piece := by
    rw [Text.bytes_append, List.getElem?_append_left (by rw [Text.length_bytes]; omega),
      ← Text.getLast?_bytes, List.getLast?_eq_getElem?, Text.length_bytes]
  have behind : (Text.bytes (piece ++ rest))[Text.size piece]? = (Text.bytes rest).head? := by
    rw [Text.bytes_append, List.getElem?_append_right (by simp), Text.length_bytes, Nat.sub_self,
      List.head?_eq_getElem?]
  rw [EdgeAt, before, behind, any_isWordByte_lastByte?, Text.any_isWordByte_head?_bytes, AtWordEdge]

theorem mem_lengths_iff {kind : Kind} {text : List Char} {length : Nat} :
    length ∈ kind.lengths text ↔ ∃ piece, kind.Fits text piece ∧ Text.size piece = length := by
  constructor
  · rintro ⟨positive, ⟨piece, rest, cut, inLanguage⟩, edge⟩
    rcases Text.splitAtByte?_eq_some_iff.mp cut with ⟨rfl, rfl⟩
    have nonempty : piece ≠ [] := by
      rintro rfl
      simp at positive
    refine ⟨piece, ⟨⟨nonempty, rest, rfl⟩, inLanguage, ?_⟩, rfl⟩
    intro bounded
    rw [List.drop_left]
    exact (edgeAt_iff_atWordEdge nonempty).mp (edge bounded)
  · rintro ⟨piece, ⟨⟨nonempty, rest, rfl⟩, inLanguage, edge⟩, rfl⟩
    refine ⟨Text.size_pos nonempty, ⟨piece, rest, ?_, inLanguage⟩, ?_⟩
    · exact Text.splitAtByte?_eq_some_iff.mpr ⟨rfl, rfl⟩
    · intro bounded
      have atEdge := edge bounded
      rw [List.drop_left] at atEdge
      exact (edgeAt_iff_atWordEdge nonempty).mpr atEdge

/-- Kinds whose patterns leave no choice where a lexeme ends. -/
def isDetermined : Kind → Bool
  | .trivia .blockComment | .trivia .lineComment | .trivia .spaces | .quoted .textBlock => false
  | _ => true

theorem fits_iff_lexeme? {kind : Kind} (determined : kind.isDetermined = true)
    {text piece : List Char} : kind.Fits text piece ↔ kind.lexeme? text = some piece := by
  cases kind with
  | trivia form =>
      cases form with
      | newline => exact Trivia.fits_newline_iff
      | tab => exact fits_spelling_iff rfl rfl (List.cons_ne_nil _ _)
      | blockComment => contradiction
      | lineComment => contradiction
      | spaces => contradiction
  | punctuation form => exact fits_spelling_iff rfl rfl (List.cons_ne_nil _ _)
  | number form => exact NumberForm.fits_iff
  | quoted form =>
      cases form with
      | string => exact QuotedForm.fits_string_iff
      | char => exact QuotedForm.fits_char_iff
      | textBlock => contradiction
  | keyword word => exact fits_keyword_iff
  | operator sign => exact fits_spelling_iff rfl rfl sign.spelling_ne_nil
  | identifier => exact fits_identifier_iff

theorem isDetermined_of_isWordBounded {kind : Kind} (bounded : kind.isWordBounded = true) :
    kind.isDetermined = true := by
  cases kind with
  | number form => rfl
  | keyword word => rfl
  | identifier => rfl
  | trivia form => contradiction
  | punctuation form => contradiction
  | quoted form => contradiction
  | operator sign => contradiction

theorem fits_of_lexeme? {kind : Kind} {text piece : List Char}
    (found : kind.lexeme? text = some piece) : kind.Fits text piece := by
  cases determined : kind.isDetermined with
  | true => exact (fits_iff_lexeme? determined).mpr found
  | false =>
      unfold isDetermined at determined
      split at determined
      · exact Trivia.fits_of_blockComment? found
      · exact Trivia.fits_of_lineComment? found
      · exact Trivia.fits_of_spaces? found
      · exact QuotedForm.fits_of_textBlock? found
      · contradiction

/-- A kind that fits some piece recognises one, and of the two its own is at least as short or as
long as the other. -/
theorem exists_lexeme?_of_fits {kind : Kind} {text other : List Char}
    (fits : kind.Fits text other) :
    ∃ piece, kind.lexeme? text = some piece ∧
      if kind.takesShortest = true then piece.length ≤ other.length
      else other.length ≤ piece.length := by
  cases determined : kind.isDetermined with
  | true =>
      refine ⟨other, (fits_iff_lexeme? determined).mp fits, ?_⟩
      split <;> exact Nat.le_refl _
  | false =>
      unfold isDetermined at determined
      split at determined
      · exact Trivia.blockComment?_le_of_fits fits
      · exact Trivia.le_lineComment?_of_fits fits
      · exact Trivia.le_spaces?_of_fits fits
      · exact QuotedForm.textBlock?_le_of_fits fits
      · contradiction

/-- A kind takes a piece exactly where it recognises it. -/
theorem takes_iff_lexeme? {kind : Kind} {text piece : List Char} :
    kind.Takes text piece ↔ kind.lexeme? text = some piece := by
  constructor
  · rintro ⟨fits, extremal⟩
    rcases exists_lexeme?_of_fits fits with ⟨recognised, found, compared⟩
    have recognisedFits := fits_of_lexeme? found
    have comparedBack := extremal recognised recognisedFits
    have sameLength : recognised.length = piece.length := by
      split at compared
      next shortest =>
          rw [if_pos shortest] at comparedBack
          omega
      next longest =>
          rw [if_neg longest] at comparedBack
          omega
    have same : recognised = piece :=
      (List.prefix_of_prefix_length_le recognisedFits.1.2 fits.1.2
        (Nat.le_of_eq sameLength)).eq_of_length sameLength
    rw [← same]
    exact found
  · intro found
    refine ⟨fits_of_lexeme? found, ?_⟩
    intro other otherFits
    rcases exists_lexeme?_of_fits otherFits with ⟨recognised, otherFound, compared⟩
    rcases Option.some.inj (found.symm.trans otherFound) with rfl
    exact compared

theorem lexeme?_eq_none_iff {kind : Kind} {text : List Char} :
    kind.lexeme? text = none ↔ kind.lengths text = ∅ := by
  rw [Set.eq_empty_iff_forall_notMem]
  constructor
  · intro nothing length member
    rcases mem_lengths_iff.mp member with ⟨piece, fits, -⟩
    rcases exists_lexeme?_of_fits fits with ⟨recognised, found, -⟩
    rw [nothing] at found
    contradiction
  · intro empty
    rw [Option.eq_none_iff_forall_not_mem]
    intro piece found
    exact empty _ (mem_lengths_iff.mpr ⟨piece, fits_of_lexeme? found, rfl⟩)

theorem isLeast_lengths_of_lexeme? {kind : Kind} (shortest : kind.takesShortest = true)
    {text piece : List Char} (found : kind.lexeme? text = some piece) :
    IsLeast (kind.lengths text) (Text.size piece) := by
  have takes := takes_iff_lexeme?.mpr found
  refine ⟨mem_lengths_iff.mpr ⟨piece, takes.1, rfl⟩, ?_⟩
  intro length member
  rcases mem_lengths_iff.mp member with ⟨other, otherFits, rfl⟩
  have compared := takes.2 other otherFits
  rw [if_pos shortest] at compared
  exact (Text.size_le_size_iff takes.1.1.2 otherFits.1.2).mpr compared

theorem isGreatest_lengths_of_lexeme? {kind : Kind} (longest : ¬kind.takesShortest = true)
    {text piece : List Char} (found : kind.lexeme? text = some piece) :
    IsGreatest (kind.lengths text) (Text.size piece) := by
  have takes := takes_iff_lexeme?.mpr found
  refine ⟨mem_lengths_iff.mpr ⟨piece, takes.1, rfl⟩, ?_⟩
  intro length member
  rcases mem_lengths_iff.mp member with ⟨other, otherFits, rfl⟩
  have compared := takes.2 other otherFits
  rw [if_neg longest] at compared
  exact (Text.size_le_size_iff otherFits.1.2 takes.1.1.2).mpr compared

theorem subsingleton_lengths {kind : Kind} (determined : kind.isDetermined = true)
    (text : List Char) : (kind.lengths text).Subsingleton := by
  intro left leftMember right rightMember
  rcases mem_lengths_iff.mp leftMember with ⟨leftPiece, leftFits, rfl⟩
  rcases mem_lengths_iff.mp rightMember with ⟨rightPiece, rightFits, rfl⟩
  rw [fits_iff_lexeme? determined] at leftFits rightFits
  rcases Option.some.inj (leftFits.symm.trans rightFits) with rfl
  rfl

theorem sign_ne_nil_iff {text : List Char} :
    NumberForm.sign text ≠ [] ↔ ∃ later, text = '+' :: later ∨ text = '-' :: later := by
  constructor
  · intro signed
    unfold NumberForm.sign at signed
    split at signed
    next later => exact ⟨later, Or.inl rfl⟩
    next later => exact ⟨later, Or.inr rfl⟩
    · exact absurd rfl signed
  · rintro ⟨later, rfl | rfl⟩ <;> simp [NumberForm.sign]

/-- What stands before a text forbids a word-bounded kind behind a word byte, and scientific
notation with a sign behind the end of an operand. -/
theorem fitsAfter_eq_false_iff {kind : Kind} {previous : Option UInt8} {text : List Char} :
    kind.fitsAfter previous text = false ↔
      (kind.isWordBounded = true ∧ ∃ byte ∈ previous, isWordByte byte = true) ∨
      (kind = .number .scientific ∧
        (∃ byte ∈ previous, isWordByte byte = true ∨ byte = ')'.toUInt8 ∨ byte = ']'.toUInt8) ∧
        ∃ later, text = '+' :: later ∨ text = '-' :: later) := by
  have endsOperand : previous.any mayEndOperand = true ↔
      ∃ byte ∈ previous, isWordByte byte = true ∨ byte = ')'.toUInt8 ∨ byte = ']'.toUInt8 := by
    cases previous <;> simp [mayEndOperand, or_assoc]
  have inWord : previous.any isWordByte = true ↔ ∃ byte ∈ previous, isWordByte byte = true := by
    cases previous <;> simp
  rw [fitsAfter, Bool.and_eq_false_iff, Bool.not_eq_false', Bool.not_eq_false', Bool.and_eq_true,
    Bool.and_eq_true, Bool.and_eq_true, decide_eq_true_eq, bne_iff_ne, endsOperand, inWord,
    sign_ne_nil_iff, and_assoc]

/-- A kind recognises nothing where the byte before the text forbids it or nothing fits, and
otherwise the least number of bytes for block comments and text blocks and the greatest for the
other kinds. There is one number to choose from at most for word-bounded kinds, strings and
character literals. -/
theorem size_lexemeAfter?_exact (kind : Kind) (previous : Option UInt8) (text : List Char) :
    ((kind.lexemeAfter? previous text).map Text.size = none ↔
      (kind.isWordBounded = true ∧ ∃ byte ∈ previous, isWordByte byte = true) ∨
      (kind = .number .scientific ∧
        (∃ byte ∈ previous, isWordByte byte = true ∨ byte = ')'.toUInt8 ∨ byte = ']'.toUInt8) ∧
        ∃ later, text = '+' :: later ∨ text = '-' :: later) ∨
      kind.lengths text = ∅) ∧
    (∀ length, (kind.lexemeAfter? previous text).map Text.size = some length →
      if kind = .trivia .blockComment ∨ kind = .quoted .textBlock then
        IsLeast (kind.lengths text) length
      else
        IsGreatest (kind.lengths text) length) ∧
    (kind.isWordBounded = true ∨ kind = .quoted .string ∨ kind = .quoted .char →
      (kind.lengths text).Subsingleton) := by
  refine ⟨?_, ?_, ?_⟩
  · rw [Option.map_eq_none_iff, ← or_assoc, ← fitsAfter_eq_false_iff, ← lexeme?_eq_none_iff,
      lexemeAfter?]
    cases kind.fitsAfter previous text <;> simp
  · intro length recognised
    rcases Option.map_eq_some_iff.mp recognised with ⟨piece, pieceFound, rfl⟩
    have found := (lexemeAfter?_eq_some_iff.mp pieceFound).2
    have shortestIff : kind.takesShortest = true ↔
        kind = .trivia .blockComment ∨ kind = .quoted .textBlock := by
      simp [takesShortest]
    split
    next shortest => exact isLeast_lengths_of_lexeme? (shortestIff.mpr shortest) found
    next longest => exact isGreatest_lengths_of_lexeme? (mt shortestIff.mp longest) found
  · intro decided
    apply subsingleton_lengths
    rcases decided with bounded | rfl | rfl
    · exact isDetermined_of_isWordBounded bounded
    · rfl
    · rfl

end Kind

end Lexis
