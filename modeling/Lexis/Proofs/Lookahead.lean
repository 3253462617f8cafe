import Lexis.Proofs.Gaps

/-!
# Other texts behind a lexeme

A lexeme is picked with the whole rest of the text in view. This file replaces a part of that rest
and asks when the same lexeme is still picked. For most kinds a gap decides: they take nothing that
reaches over a gap, so a text that differs only behind one is the same for them. Comments and text
blocks do reach over gaps, as far as their closing mark, and are looked for before the sign of
division and the string. So a sign of division and an empty string are picked again where the new
text opens nothing that the old one did not open.
-/

namespace Lexis

/-- Two texts are kept apart by a gap where they meet: one of them has it at the cut, or there is
nothing behind the cut. -/
def GapAt (front rest : List Char) : Prop :=
  OpensGap rest ∨ ∃ mark ∈ gapMarks, front.getLast? = some mark

namespace GapAt

variable {front rest piece : List Char}

theorem partsWords (gap : GapAt front rest) : PartsWords front rest := by
  rcases gap with opens | ⟨mark, isGap, ends⟩
  · intro _
    exact opens.any_head?
  · exact partsWords_of_getLast? ends (isWordChar_eq_false_of_mem_gapMarks isGap)

/-- A piece that holds no gap does not reach over one. -/
theorem isPrefix (gap : GapAt front rest) (begins : piece <+: front ++ rest)
    (noGap : ∀ mark ∈ gapMarks, mark ∉ piece) : piece <+: front := by
  have frontBegins := List.prefix_append front rest
  rcases List.prefix_or_prefix_of_prefix begins frontBegins with within | ⟨more, rfl⟩
  · exact within
  · rcases gap with opens | ⟨mark, isGap, ends⟩
    · cases more with
      | nil => simp
      | cons mark later =>
          rcases (List.prefix_append_right_inj front).mp begins with ⟨behind, rfl⟩
          exact absurd (by simp) (noGap mark (opens mark rfl))
    · exact absurd (List.mem_append_left more (List.mem_of_getLast? ends)) (noGap mark isGap)

end GapAt

/-! ## Openings -/

open Pattern in
/-- Behind a sign of division a new text opens no comment that the old one did not open, and behind
an empty string no text block. -/
structure Lexeme.OpensNothing (lexeme : Lexeme) (old new : List Char) : Prop where
  line : lexeme.kind = .operator .divide → new.head? = some '/' → old.head? = some '/'
  comment : lexeme.kind = .operator .divide →
    ∀ body later, new = '*' :: (body ++ (['*', '/'] ++ later)) →
      ∃ body later, old = '*' :: (body ++ (['*', '/'] ++ later))
  textBlock : lexeme.kind = .quoted .string → lexeme.text = ['"', '"'] →
    ∀ body later, new = '"' :: (body ++ (['"', '"', '"'] ++ later)) →
      escapable.zeroOrMore.Matches body →
      ∃ body later, old = '"' :: (body ++ (['"', '"', '"'] ++ later)) ∧
        escapable.zeroOrMore.Matches body

theorem Trivia.exists_lineComment?_iff {later : List Char} :
    (∃ piece, lineComment? ('/' :: later) = some piece) ↔ later.head? = some '/' := by
  cases later with
  | nil => simp [lineComment?]
  | cons first others =>
      constructor
      · rintro ⟨piece, found⟩
        unfold lineComment? at found
        split at found
        next line parts =>
            rcases (List.cons.inj (List.cons.inj parts).2).1 with rfl
            rfl
        · contradiction
      · intro slash
        rcases Option.some.inj slash with rfl
        exact ⟨_, rfl⟩

theorem Trivia.exists_blockComment?_iff {later : List Char} :
    (∃ piece, blockComment? ('/' :: later) = some piece) ↔
      ∃ body rest, later = '*' :: (body ++ (['*', '/'] ++ rest)) := by
  constructor
  · rintro ⟨piece, found⟩
    rcases (Kind.fits_iff_of_notWordBounded rfl).mp (fits_of_blockComment? found) with
      ⟨⟨-, rest, parts⟩, inLanguage⟩
    rcases matches_blockComment.mp inLanguage with ⟨body, rfl⟩
    refine ⟨body, rest, ?_⟩
    simpa using (List.cons.inj parts).2.symm
  · rintro ⟨body, rest, rfl⟩
    rcases throughCommentEnd?_le (rfl : body ++ (['*', '/'] ++ rest) = _) with ⟨inner, found, -⟩
    exact ⟨'/' :: '*' :: inner, by simp only [blockComment?, found, Option.map_some]⟩

theorem QuotedForm.exists_textBlock?_iff {later : List Char} :
    (∃ piece, textBlock? ('"' :: '"' :: later) = some piece) ↔
      ∃ body rest, later = '"' :: (body ++ (['"', '"', '"'] ++ rest)) ∧
        Pattern.escapable.zeroOrMore.Matches body := by
  constructor
  · rintro ⟨piece, found⟩
    rcases (Kind.fits_iff_of_notWordBounded rfl).mp (fits_of_textBlock? found) with
      ⟨⟨-, rest, parts⟩, inLanguage⟩
    rcases matches_textBlock.mp inLanguage with ⟨body, rfl, inBody⟩
    refine ⟨body, rest, ?_, inBody⟩
    simpa using (List.cons.inj (List.cons.inj parts).2).2.symm
  · rintro ⟨body, rest, rfl, inBody⟩
    rcases throughTripleQuote?_le (rfl : body ++ (['"', '"', '"'] ++ rest) = _) inBody with
      ⟨inner, found, -⟩
    exact ⟨'"' :: '"' :: '"' :: inner, by simp only [textBlock?, found, Option.map_some]⟩

/-- A string that a text block could open as well is empty. -/
theorem QuotedForm.eq_empty_of_string? {text string block : List Char}
    (found : string? text = some string) (blockFound : textBlock? text = some block) :
    string = ['"', '"'] := by
  unfold textBlock? at blockFound
  split at blockFound
  next later =>
      have empty : ['"', '"'] = string := Option.some.inj found
      exact empty.symm
  · contradiction

namespace Kind

variable {kind : Kind} {text common old new : List Char}

/-- A lexeme that carries meaning is recognised again where the text behind it is replaced from a
gap on. -/
theorem lexeme?_of_gapAt (found : kind.lexeme? (text ++ (common ++ old)) = some text)
    (significant : kind.isTrivia = false) (gap : GapAt (text ++ common) new) :
    kind.lexeme? (text ++ (common ++ new)) = some text := by
  have ends := endsBefore_of_lexeme? found
  apply lexeme?_append_of_append found
  refine ⟨?_, ?_, ?_⟩
  · intro bounded
    cases common with
    | cons first later => exact ends.word bounded
    | nil =>
        apply gap.partsWords
        rw [List.append_nil]
        exact any_getLast?_of_matches bounded (fits_of_lexeme? found).2.1
  · intro isSpaces
    rw [isSpaces] at significant
    contradiction
  · intro isLine
    rw [isLine] at significant
    contradiction

/-- A kind whose lexemes hold no gaps takes nothing in front of a new text that it did not take in
front of the old one: its piece would lie in front of the gap, where the two texts are the same. -/
theorem lexeme?_eq_none_of_gapAt (solid : kind.isSolid = true)
    (fails : kind.lexeme? (text ++ old) = none) (oldParts : PartsWords text old)
    (gap : GapAt text new) : kind.lexeme? (text ++ new) = none := by
  rw [Option.eq_none_iff_forall_not_mem]
  intro piece found
  have fits := fits_of_lexeme? found
  have within := gap.isPrefix fits.1.2
    fun mark isGap => notMem_of_isSolid solid isGap found
  have fitsFront := (fits_append_iff within gap.partsWords).mp fits
  have fitsOld := (fits_append_iff within oldParts).mpr fitsFront
  rcases exists_lexeme?_of_fits fitsOld with ⟨oldPiece, oldFound, -⟩
  rw [fails] at oldFound
  contradiction

end Kind

namespace Lexeme

variable {previous : Option UInt8} {lexeme : Lexeme} {kind : Kind} {common old new : List Char}

/-- Where nothing new is opened, no kind whose lexemes may hold gaps takes the place of a lexeme
that carries meaning. -/
theorem OpensNothing.lexeme?_eq_none (opensNothing : lexeme.OpensNothing old new)
    (found : lexeme.kind.lexeme? (lexeme.text ++ old) = some lexeme.text)
    (foundNew : lexeme.kind.lexeme? (lexeme.text ++ new) = some lexeme.text)
    (significant : lexeme.kind.isTrivia = false) (notSolid : kind.isSolid = false)
    (before : kind.rank < lexeme.kind.rank)
    (fails : kind.lexeme? (lexeme.text ++ old) = none) :
    kind.lexeme? (lexeme.text ++ new) = none := by
  rcases lexeme with ⟨winner, text⟩
  simp only at *
  rw [Option.eq_none_iff_forall_not_mem] at fails ⊢
  intro piece pieceFound
  cases text with
  | nil => exact (Kind.lexeme?_starts found).1 rfl
  | cons first behind =>
      rw [List.cons_append] at pieceFound foundNew
      have opening := Kind.opens_of_lexeme? pieceFound
      have rival := Kind.mem_rivals_iff.mpr opening
      have winnerRival := Kind.mem_rivals_iff.mpr (Kind.opens_of_lexeme? foundNew)
      have mark := Kind.mem_marks_of_opens notSolid opening
      rcases Kind.eq_or_of_notSolid mark rival winnerRival before notSolid significant with
        ⟨comment, rfl⟩ | ⟨rfl, rfl⟩
      · have spelled : ['/'] = first :: behind := (spelled?_eq_some_iff.mp foundNew).1
        rcases List.cons.inj spelled with ⟨rfl, rfl⟩
        rcases comment with rfl | rfl
        · rcases Trivia.exists_blockComment?_iff.mp ⟨piece, pieceFound⟩ with ⟨body, later, parts⟩
          have opened := opensNothing.comment rfl body later parts
          rcases Trivia.exists_blockComment?_iff.mpr opened with ⟨oldPiece, oldFound⟩
          exact fails oldPiece oldFound
        · have newHead := Trivia.exists_lineComment?_iff.mp ⟨piece, pieceFound⟩
          have oldHead := opensNothing.line rfl newHead
          rcases Trivia.exists_lineComment?_iff.mpr oldHead with ⟨oldPiece, oldFound⟩
          exact fails oldPiece oldFound
      · have empty : first :: behind = ['"', '"'] :=
          QuotedForm.eq_empty_of_string? foundNew pieceFound
        rcases List.cons.inj empty with ⟨rfl, rfl⟩
        rcases QuotedForm.exists_textBlock?_iff.mp ⟨piece, pieceFound⟩ with
          ⟨body, later, parts, inBody⟩
        have opened := opensNothing.textBlock rfl rfl body later parts inBody
        rcases QuotedForm.exists_textBlock?_iff.mpr opened with ⟨oldPiece, oldFound⟩
        exact fails oldPiece oldFound

/-- A lexeme that carries meaning is picked again where the text behind it is replaced from a gap on
and the new text opens nothing. -/
theorem first?_of_gapAt
    (found : first? previous (lexeme.text ++ (common ++ old)) = some lexeme)
    (significant : lexeme.kind.isTrivia = false)
    (oldParts : PartsWords (lexeme.text ++ common) old)
    (gap : GapAt (lexeme.text ++ common) new)
    (opensNothing : lexeme.OpensNothing (common ++ old) (common ++ new)) :
    first? previous (lexeme.text ++ (common ++ new)) = some lexeme := by
  have nonempty := (first?_starts found).1
  rcases first?_eq_some_iff.mp found with ⟨recognised, earlierFail⟩
  rcases Kind.lexemeAfter?_eq_some_iff.mp recognised with ⟨fitsAfter, lexemeFound⟩
  have sameFitsAfter (kind : Kind) : kind.fitsAfter previous (lexeme.text ++ (common ++ new)) =
      kind.fitsAfter previous (lexeme.text ++ (common ++ old)) := by
    rw [Kind.fitsAfter_append nonempty, Kind.fitsAfter_append nonempty]
  have lexemeFoundNew := Kind.lexeme?_of_gapAt lexemeFound significant gap
  apply first?_eq_some_iff.mpr
  refine ⟨Kind.lexemeAfter?_eq_some_iff.mpr ⟨?_, lexemeFoundNew⟩, ?_⟩
  · rw [sameFitsAfter]
    exact fitsAfter
  · intro kind before
    have fails := earlierFail kind before
    rw [Kind.lexemeAfter?] at fails ⊢
    rw [sameFitsAfter]
    split
    next allowed =>
        rw [if_pos allowed] at fails
        cases solid : kind.isSolid with
        | false =>
            exact opensNothing.lexeme?_eq_none lexemeFound lexemeFoundNew significant solid before
              fails
        | true =>
            rw [← List.append_assoc] at fails ⊢
            exact Kind.lexeme?_eq_none_of_gapAt solid fails oldParts gap
    · rfl

end Lexeme

end Lexis
