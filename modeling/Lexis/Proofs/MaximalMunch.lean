import Lexis.Proofs.Openings

/-!
# The first kind is the longest

The kinds are tried in order of priority and the first that recognises something wins, without a
look at how long the others are. The order is such that the winner is the longest all the same:
comments come before the sign of division, text blocks before strings, scientific notation before
its sign and before the shorter forms of numbers, and a word is a word for every kind that takes
one. There is one exception. An octal number is tried before decimal fractions, so it is taken for
itself where it is the whole part of one.
-/

namespace Lexis

namespace Lexeme

variable {previous : Option UInt8} {text : List Char} {lexeme : Lexeme} {kind : Kind}

/-- Where a kind wins, the kinds before it recognise nothing. -/
theorem lexemeAfter?_eq_none_of_rank_lt (found : first? previous text = some lexeme)
    (before : kind.rank < lexeme.kind.rank) : kind.lexemeAfter? previous text = none := by
  rcases List.findSome?_eq_some_iff.mp found with
    ⟨earlier, winner, later, parts, winnerFound, earlierFail⟩
  rcases Option.map_eq_some_iff.mp winnerFound with ⟨piece, -, rfl⟩
  have nodup := Kind.nodup_all
  rw [parts] at nodup
  have winnerNew : winner ∉ earlier := by
    intro member
    exact (List.nodup_append.mp nodup).2.2 winner member winner (by simp) rfl
  have winnerRank : winner.rank = earlier.length := by
    rw [Kind.rank, parts, List.idxOf_append, if_neg winnerNew]
    simp
  have member : kind ∈ earlier := by
    rcases Decidable.em (kind ∈ earlier) with member | notMember
    · exact member
    · have kindRank : earlier.length ≤ kind.rank := by
        rw [Kind.rank, parts, List.idxOf_append, if_neg notMember]
        omega
      simp only at before
      omega
  exact Option.map_eq_none_iff.mp (earlierFail kind member)

theorem rank_le_of_lexemeAfter? {piece : List Char} (found : first? previous text = some lexeme)
    (otherFound : kind.lexemeAfter? previous text = some piece) : lexeme.kind.rank ≤ kind.rank := by
  rcases Nat.lt_or_ge kind.rank lexeme.kind.rank with before | behind
  · rw [lexemeAfter?_eq_none_of_rank_lt found before] at otherFound
    contradiction
  · exact behind

end Lexeme

/-! ## Numbers -/

namespace NumberForm

/-- Forms whose numbers are single words. -/
def isWord : NumberForm → Bool
  | .octal | .int | .hex | .binary => true
  | .scientific | .float | .double => false

theorem word_eq_of_lexeme? {form : NumberForm} (single : form.isWord = true)
    {text piece : List Char} (found : form.lexeme? text = some piece) : word text = piece := by
  cases form with
  | octal => exact (wordWhere?_eq_some_iff.mp found).2
  | int => exact (wordWhere?_eq_some_iff.mp found).2
  | hex => exact (wordWhere?_eq_some_iff.mp found).2
  | binary => exact (wordWhere?_eq_some_iff.mp found).2
  | scientific => contradiction
  | float => contradiction
  | double => contradiction

/-- No piece that ends where no word character follows is shorter than the word at the start. -/
theorem length_word_le {piece rest : List Char} (stops : rest.head?.any isWordChar = false) :
    (word (piece ++ rest)).length ≤ piece.length := by
  rcases exists_word_append (piece ++ rest) with ⟨behind, parts, -⟩
  rcases List.append_eq_append_iff.mp parts with ⟨between, wordIs, restIs⟩ | ⟨between, pieceIs, -⟩
  · cases between with
    | nil => simp [wordIs]
    | cons first later =>
        -- a longer word would go on with the character that follows the piece
        have inWord := all_word (piece ++ rest)
        rw [wordIs, List.all_append, List.all_cons, Bool.and_eq_true, Bool.and_eq_true] at inWord
        rw [restIs, List.cons_append, List.head?_cons, Option.any_some, inWord.2.1] at stops
        contradiction
  · have sameLength := congrArg List.length pieceIs
    rw [List.length_append] at sameLength
    omega

theorem length_word_le_of_lexeme? {form : NumberForm} {text piece : List Char}
    (found : form.lexeme? text = some piece) : (word text).length ≤ piece.length := by
  have fits : (Kind.number form).Fits text piece := fits_iff.mpr found
  rcases ((Kind.fits_iff_of_wordBounded rfl).mp fits).2 with ⟨rest, rfl, stops⟩
  exact length_word_le stops

theorem exponent?_eq_none_of_stop {text : List Char}
    (stops : text.head?.any isWordChar = false) : exponent? text = none := by
  rw [Option.eq_none_iff_forall_not_mem]
  intro piece found
  rcases exponent?_eq_some_iff.mp found with
    ⟨⟨letter, signed, power, rfl, letterIs, -, -⟩, rest, rfl, -⟩
  rcases letterIs with rfl | rfl
  · contradiction
  · contradiction

/-- Behind a decimal fraction stands no word character, so no exponent that would make it scientific
notation. -/
theorem scientific?_eq_none_of_decimal? {limit : Nat} {text piece : List Char}
    (found : decimal? limit text = some piece) : scientific? text = none := by
  rcases decimal?_eq_some_iff.mp found with ⟨later, parts, wholeShort, partShort, -⟩
  rcases exists_word_append later with ⟨rest, laterParts, stops⟩
  have wholeNumeral := isNumeral_of_isShortNumeral wholeShort
  have partNumeral := isNumeral_of_isShortNumeral partShort
  generalize word text = whole at parts wholeNumeral
  generalize word later = part at laterParts partNumeral
  subst parts laterParts
  have unsigned : sign (whole ++ '.' :: (part ++ rest)) = [] :=
    sign_append_of_isNumeral wholeNumeral
  have wholeIs : digits (whole ++ '.' :: (part ++ rest)) = whole :=
    takeWhile_append_of_stop (all_isDigit_of_isNumeral wholeNumeral) (by rfl)
  have restNotDigit : rest.head?.any Char.isDigit = false := by
    cases rest with
    | nil => rfl
    | cons first behind =>
        rw [List.head?_cons, Option.any_some, Bool.eq_false_iff] at stops ⊢
        exact mt isWordChar_of_isDigit stops
  have partIs : digits (part ++ rest) = part :=
    takeWhile_append_of_stop (all_isDigit_of_isNumeral partNumeral) restNotDigit
  simp [scientific?, unsigned, wholeIs, fraction, partIs, ne_nil_of_isNumeral partNumeral,
    exponent?_eq_none_of_stop stops]

theorem eq_of_decimal? {limit otherLimit : Nat} {text piece otherPiece : List Char}
    (found : decimal? limit text = some piece)
    (otherFound : decimal? otherLimit text = some otherPiece) : otherPiece = piece := by
  rcases decimal?_eq_some_iff.mp found with ⟨later, parts, -, -, rfl⟩
  rcases decimal?_eq_some_iff.mp otherFound with ⟨otherLater, otherParts, -, -, rfl⟩
  have same := List.append_cancel_left (parts.symm.trans otherParts)
  rw [(List.cons.inj same).2]

/-- What the order of the forms leaves to be compared with a form that is not a single word. -/
theorem eq_or_of_rank_le {winner other : NumberForm} (parted : other.isWord = false)
    (order : (Kind.number winner).rank ≤ (Kind.number other).rank) :
    winner = other ∨ winner = .scientific ∨ winner = .float ∧ other = .double ∨
      winner = .octal ∧ (other = .float ∨ other = .double) := by
  revert parted order
  cases winner <;> cases other <;> decide

theorem length_le_of_rank_le {winner other : NumberForm} {text piece otherPiece : List Char}
    (found : winner.lexeme? text = some piece) (otherFound : other.lexeme? text = some otherPiece)
    (order : (Kind.number winner).rank ≤ (Kind.number other).rank) :
    otherPiece.length ≤ piece.length ∨
      winner = .octal ∧ (other = .float ∨ other = .double) := by
  cases single : other.isWord with
  | true =>
      left
      rw [← word_eq_of_lexeme? single otherFound]
      exact length_word_le_of_lexeme? found
  | false =>
      rcases eq_or_of_rank_le single order with rfl | rfl | ⟨rfl, rfl⟩ | clash
      · left
        rw [Option.some.inj (found.symm.trans otherFound)]
      · cases other with
        | scientific => simp [Option.some.inj (found.symm.trans otherFound)]
        | float =>
            rw [lexeme?, scientific?_eq_none_of_decimal? otherFound] at found
            contradiction
        | double =>
            rw [lexeme?, scientific?_eq_none_of_decimal? otherFound] at found
            contradiction
        | octal => contradiction
        | int => contradiction
        | hex => contradiction
        | binary => contradiction
      · left
        rw [eq_of_decimal? found otherFound]
      · exact Or.inr clash

end NumberForm

/-! ## Words and marks -/

namespace Kind

/-- Operators of one character. -/
def isSingleSign : Kind → Bool
  | .operator sign => sign.spelling.length == 1
  | _ => false

theorem length_of_isSingleSign {kind : Kind} (single : kind.isSingleSign = true)
    {text piece : List Char} (found : kind.lexeme? text = some piece) : piece.length = 1 := by
  cases kind with
  | operator sign =>
      have spelled : sign.spelling = piece := (spelled?_eq_some_iff.mp found).1
      rw [← spelled]
      simpa [isSingleSign] using single
  | trivia form => contradiction
  | punctuation form => contradiction
  | number form => contradiction
  | quoted form => contradiction
  | keyword word => contradiction
  | identifier => contradiction

/-- What the order of priority leaves to be compared where a mark stands. -/
theorem eq_or_of_mem_rivals {first : Char} (mark : first ∈ marks) {winner other : Kind}
    (winnerRival : winner ∈ rivals first) (otherRival : other ∈ rivals first)
    (order : winner.rank ≤ other.rank) :
    winner = other ∨ other.isSingleSign = true ∨
      winner = .trivia .blockComment ∧ other = .trivia .lineComment ∨
      winner = .quoted .textBlock ∧ other = .quoted .string := by
  have compared : marks.all (fun mark =>
      (rivals mark).all fun winner => (rivals mark).all fun other =>
        winner.rank ≤ other.rank → winner = other ∨ other.isSingleSign = true ∨
          winner = .trivia .blockComment ∧ other = .trivia .lineComment ∨
          winner = .quoted .textBlock ∧ other = .quoted .string) = true := by decide
  simp only [List.all_eq_true, decide_eq_true_eq] at compared
  exact compared first mark winner winnerRival other otherRival order

theorem lineComment?_eq_none_of_blockComment? {text comment : List Char}
    (found : Trivia.blockComment? text = some comment) : Trivia.lineComment? text = none := by
  unfold Trivia.blockComment? at found
  split at found
  · rfl
  · contradiction

/-- A text block opens like an empty string, and is longer. -/
theorem length_string_le {text block string : List Char}
    (found : QuotedForm.textBlock? text = some block)
    (stringFound : QuotedForm.string? text = some string) : string.length ≤ block.length := by
  unfold QuotedForm.textBlock? at found
  split at found
  next later =>
      rcases Option.map_eq_some_iff.mp found with ⟨body, -, rfl⟩
      have short : ['"', '"'] = string := Option.some.inj stringFound
      rw [← short]
      simp
  · contradiction

theorem length_le_of_mark {first : Char} (mark : first ∈ marks) {later : List Char}
    {winner other : Kind} {piece otherPiece : List Char}
    (found : winner.lexeme? (first :: later) = some piece)
    (otherFound : other.lexeme? (first :: later) = some otherPiece)
    (order : winner.rank ≤ other.rank) : otherPiece.length ≤ piece.length := by
  have winnerRival := mem_rivals_iff.mpr (opens_of_lexeme? found)
  have otherRival := mem_rivals_iff.mpr (opens_of_lexeme? otherFound)
  rcases eq_or_of_mem_rivals mark winnerRival otherRival order with
    rfl | single | ⟨rfl, rfl⟩ | ⟨rfl, rfl⟩
  · rw [Option.some.inj (found.symm.trans otherFound)]
  · rw [length_of_isSingleSign single otherFound]
    exact List.length_pos_iff.mpr (lexeme?_starts found).1
  · have noLineComment := lineComment?_eq_none_of_blockComment? found
    have lineCommentFound : Trivia.lineComment? (first :: later) = some otherPiece := otherFound
    rw [noLineComment] at lineCommentFound
    contradiction
  · exact length_string_le found otherFound

end Kind

namespace Lexeme

/-- Nothing that could be recognised at a place is longer than what is, apart from a decimal
fraction where its whole part is an octal number. -/
theorem length_le_of_first? {previous : Option UInt8} {text piece otherPiece : List Char}
    {winner other : Kind} (found : first? previous text = some ⟨winner, piece⟩)
    (otherFound : other.lexemeAfter? previous text = some otherPiece) :
    otherPiece.length ≤ piece.length ∨
      winner = .number .octal ∧ (other = .number .float ∨ other = .number .double) := by
  have order : winner.rank ≤ other.rank := rank_le_of_lexemeAfter? found otherFound
  have winnerAfter : winner.lexemeAfter? previous text = some piece :=
    lexemeAfter?_of_first?_eq_some found
  have winnerFound := (Kind.lexemeAfter?_eq_some_iff.mp winnerAfter).2
  have otherHere := (Kind.lexemeAfter?_eq_some_iff.mp otherFound).2
  cases text with
  | nil =>
      rw [first?_nil] at found
      contradiction
  | cons first later =>
      have winnerRival := Kind.mem_rivals_of_lexemeAfter? winnerAfter
      have otherRival := Kind.mem_rivals_of_lexemeAfter? otherFound
      cases letter : first.isAlpha with
      | true =>
          have winnerOpening := Kind.opensWithLetter_of_mem_rivals letter winnerRival
          have otherOpening := Kind.opensWithLetter_of_mem_rivals letter otherRival
          left
          rw [← Kind.word_eq_of_lexeme? winnerOpening winnerFound,
            ← Kind.word_eq_of_lexeme? otherOpening otherHere]
      | false =>
          cases digit : first.isDigit with
          | true =>
              rcases Kind.exists_number_of_mem_rivals digit winnerRival with ⟨winnerForm, rfl⟩
              rcases Kind.exists_number_of_mem_rivals digit otherRival with ⟨otherForm, rfl⟩
              simpa using NumberForm.length_le_of_rank_le winnerFound otherHere order
          | false =>
              left
              have mark : first ∈ Kind.marks := by
                apply Decidable.of_not_not
                intro notMark
                rw [Kind.rivals_eq_nil letter digit notMark] at winnerRival
                exact List.not_mem_nil winnerRival
              exact Kind.length_le_of_mark mark winnerFound otherHere order

end Lexeme

/-! ## Places of a source -/

/-- The number of bytes that a kind recognises at an offset of a text, if it recognises something
there. -/
def Kind.lengthAt (kind : Kind) (content : String) (offset : Nat) : Except Fault (Option Nat) :=
  (cutAt content offset).map fun (before, rest) =>
    (kind.lexemeAfter? (Text.lastByte? before) rest).map Text.size

/-- A text goes on at an offset with a point and a word of 1 to 32 digits. -/
def FractionFollows (content : String) (offset : Nat) : Prop :=
  ∃ before later, cutAt content offset = .ok (before, '.' :: later) ∧
    1 ≤ (word later).length ∧ (word later).length ≤ 32 ∧ (word later).all Char.isDigit = true

theorem Kind.lengthAt_eq_some_iff {kind : Kind} {content : String} {offset length : Nat}
    {before rest : List Char} (cut : cutAt content offset = .ok (before, rest)) :
    kind.lengthAt content offset = .ok (some length) ↔
      ∃ piece, kind.lexemeAfter? (Text.lastByte? before) rest = some piece ∧
        Text.size piece = length := by
  simp [lengthAt, cut, Except.map]

/-- The word of digits at a place is the whole part of a decimal fraction where it is short and a
fraction follows it. -/
theorem exists_decimal?_iff_fractionFollows {content : String} {offset : Nat}
    {before rest : List Char} (cut : cutAt content offset = .ok (before, rest))
    (numeral : NumberForm.isNumeral (word rest) = true) :
    (∃ piece, NumberForm.decimal? NumberForm.doubleLimit rest = some piece) ↔
      (word rest).length ≤ 9 ∧ FractionFollows content (offset + Text.size (word rest)) := by
  rcases cutAt_eq_ok_iff.mp cut with ⟨parts, rfl⟩
  rcases exists_word_append rest with ⟨behind, restParts, -⟩
  have cutBehind : cutAt content (Text.size before + Text.size (word rest)) =
      .ok (before ++ word rest, behind) := by
    apply cutAt_eq_ok_iff.mpr
    refine ⟨?_, Text.size_append _ _⟩
    rw [List.append_assoc, ← restParts, parts]
  constructor
  · rintro ⟨piece, found⟩
    rcases NumberForm.decimal?_eq_some_iff.mp found with ⟨later, laterParts, whole, part, -⟩
    have behindIs : behind = '.' :: later :=
      List.append_cancel_left (restParts.symm.trans laterParts)
    rw [behindIs] at cutBehind
    exact ⟨(NumberForm.isShortNumeral_iff.mp whole).2.1, before ++ word rest, later, cutBehind,
      NumberForm.isShortNumeral_iff.mp part⟩
  · rintro ⟨short, front, later, cutFront, part⟩
    have behindIs : behind = '.' :: later := by
      rw [cutBehind] at cutFront
      exact (Prod.mk.inj (Except.ok.inj cutFront)).2
    have wholePart := NumberForm.isShortNumeral_iff.mpr ⟨List.length_pos_iff.mpr
      (NumberForm.ne_nil_of_isNumeral numeral), short, NumberForm.all_isDigit_of_isNumeral numeral⟩
    refine ⟨_, NumberForm.decimal?_eq_some_iff.mpr ⟨later, ?_, wholePart,
      NumberForm.isShortNumeral_iff.mpr part, rfl⟩⟩
    rw [← behindIs]
    exact restParts

/-- Forms of decimal fractions differ in how many digits they admit behind the point. -/
theorem NumberForm.decimal?_doubleLimit_of_decimal? {form : NumberForm}
    (fractional : form = .float ∨ form = .double) {text piece : List Char}
    (found : form.lexeme? text = some piece) : decimal? doubleLimit text = some piece := by
  rcases fractional with rfl | rfl
  · rcases decimal?_eq_some_iff.mp found with ⟨later, parts, whole, part, rfl⟩
    rcases NumberForm.isShortNumeral_iff.mp part with ⟨positive, short, digits⟩
    have longPart : isShortNumeral doubleLimit (word later) = true :=
      NumberForm.isShortNumeral_iff.mpr ⟨positive, Nat.le_trans short (by decide), digits⟩
    exact decimal?_eq_some_iff.mpr ⟨later, parts, whole, longPart, rfl⟩
  · exact found

theorem NumberForm.size_word_lt_of_decimal? {limit : Nat} {text piece : List Char}
    (found : decimal? limit text = some piece) : Text.size (word text) < Text.size piece := by
  rcases decimal?_eq_some_iff.mp found with ⟨later, -, -, -, rfl⟩
  have positive := Text.size_pos (List.cons_ne_nil '.' (word later))
  rw [Text.size_append]
  omega

/-- An octal number is the whole part of a decimal fraction where it is short and a fraction
follows it. -/
theorem octal_passes_fraction_iff {content : String} {offset : Nat} {before rest piece : List Char}
    (cut : cutAt content offset = .ok (before, rest))
    (octalFound : (Kind.number .octal).lexemeAfter? (Text.lastByte? before) rest = some piece) :
    (∃ form longer, (form = .float ∨ form = .double) ∧
        (Kind.number form).lengthAt content offset = .ok (some longer) ∧ Text.size piece < longer) ↔
      Text.size piece ≤ 9 ∧ FractionFollows content (offset + Text.size piece) := by
  rcases Kind.lexemeAfter?_eq_some_iff.mp octalFound with ⟨fitsAfter, found⟩
  rcases wordWhere?_eq_some_iff.mp found with ⟨octal, rfl⟩
  have numeral := NumberForm.isNumeral_of_isOctal octal
  have fraction_iff := exists_decimal?_iff_fractionFollows cut numeral
  rw [← size_of_all_isWordChar (all_word rest)] at fraction_iff
  rw [← fraction_iff]
  constructor
  · rintro ⟨form, longer, fractional, formAt, -⟩
    rcases (Kind.lengthAt_eq_some_iff cut).mp formAt with ⟨formPiece, formFound, -⟩
    have formHere := (Kind.lexemeAfter?_eq_some_iff.mp formFound).2
    exact ⟨formPiece, NumberForm.decimal?_doubleLimit_of_decimal? fractional formHere⟩
  · rintro ⟨fraction, fractionFound⟩
    have fractionFits : (Kind.number .double).fitsAfter (Text.lastByte? before) rest = true := by
      simpa [Kind.fitsAfter, Kind.isWordBounded] using fitsAfter
    refine ⟨.double, Text.size fraction, Or.inr rfl, ?_,
      NumberForm.size_word_lt_of_decimal? fractionFound⟩
    apply (Kind.lengthAt_eq_some_iff cut).mpr
    exact ⟨fraction, Kind.lexemeAfter?_eq_some_iff.mpr ⟨fractionFits, fractionFound⟩, rfl⟩

/-- What is recognised at an offset is the longest lexeme there, unless it is an octal number of at
most nine digits before a point and a word of 1 to 32 digits; then decimal fractions, and they
alone, are longer. -/
theorem longer_than_lexemeAt_iff {content : String} {offset length : Nat} {kind : Kind}
    (found : lexemeAt content offset = .ok (some (kind, length))) :
    ((∃ other longer, Kind.lengthAt other content offset = .ok (some longer) ∧ length < longer) ↔
      kind = .number .octal ∧ length ≤ 9 ∧ FractionFollows content (offset + length)) ∧
    ∀ other longer, Kind.lengthAt other content offset = .ok (some longer) → length < longer →
      other = .number .float ∨ other = .number .double := by
  rcases exists_first?_of_lexemeAt found with ⟨before, rest, piece, cut, recognised, rfl⟩
  have pieceFound : kind.lexemeAfter? (Text.lastByte? before) rest = some piece :=
    Lexeme.lexemeAfter?_of_first?_eq_some recognised
  have clash {other : Kind} {longer : Nat}
      (otherAt : other.lengthAt content offset = .ok (some longer))
      (isLonger : Text.size piece < longer) :
      kind = .number .octal ∧ (other = .number .float ∨ other = .number .double) := by
    rcases (Kind.lengthAt_eq_some_iff cut).mp otherAt with ⟨otherPiece, otherFound, rfl⟩
    rcases Lexeme.length_le_of_first? recognised otherFound with short | clash
    · have noLonger := (Text.size_le_size_iff (Kind.lexemeAfter?_starts otherFound).2
        (Kind.lexemeAfter?_starts pieceFound).2).mpr short
      omega
    · exact clash
  refine ⟨?_, fun other longer otherAt isLonger => (clash otherAt isLonger).2⟩
  constructor
  · rintro ⟨other, longer, otherAt, isLonger⟩
    rcases clash otherAt isLonger with ⟨rfl, rfl | rfl⟩
    · exact ⟨rfl, (octal_passes_fraction_iff cut pieceFound).mp
        ⟨.float, longer, Or.inl rfl, otherAt, isLonger⟩⟩
    · exact ⟨rfl, (octal_passes_fraction_iff cut pieceFound).mp
        ⟨.double, longer, Or.inr rfl, otherAt, isLonger⟩⟩
  · rintro ⟨rfl, follows⟩
    rcases (octal_passes_fraction_iff cut pieceFound).mpr follows with
      ⟨form, longer, -, formAt, isLonger⟩
    exact ⟨.number form, longer, formAt, isLonger⟩

/-- In `012.5` the octal number is taken, and the fraction that it begins is passed over. -/
theorem longer_than_lexemeAt_iff_of_octal_fraction :
    lexemeAt "012.5" 0 = .ok (some (.number .octal, 3)) ∧
      ((∃ other longer, Kind.lengthAt other "012.5" 0 = .ok (some longer) ∧ 3 < longer) ↔
        Kind.number .octal = .number .octal ∧ 3 ≤ 9 ∧ FractionFollows "012.5" (0 + 3)) ∧
      ∀ other longer, Kind.lengthAt other "012.5" 0 = .ok (some longer) → 3 < longer →
        other = .number .float ∨ other = .number .double :=
  ⟨by rfl, longer_than_lexemeAt_iff (by rfl)⟩

end Lexis
