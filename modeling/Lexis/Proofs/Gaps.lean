import Lexis.Proofs.Endings

/-!
# Gaps between lexemes

A space, a tab or a line feed keeps a lexeme apart from what follows. Most lexemes hold no such
character, so nothing recognised at the start of one goes on behind the gap; and the kinds that may
hold one, comments and quoted literals, open with marks that no gap completes. A lexeme that carries
meaning is therefore picked in front of a gap where it is picked with nothing behind it.

Comments and blanks need no gap. No kind before them in the order of priority fits where one of them
is recognised, so they are picked wherever they are recognised, whatever stands in front of them.
-/

namespace Lexis

namespace Pattern

/-- A pattern has no place for a character, so none of its texts holds it. -/
def avoids (char : Char) : Pattern → Bool
  | .char inClass => !inClass char
  | .spelling text => decide (char ∉ text)
  | .seq first second => first.avoids char && second.avoids char
  | .either left right => left.avoids char && right.avoids char
  | .times _ _ body => body.avoids char

theorem notMem_of_avoids {char : Char} {pattern : Pattern} {text : List Char}
    (avoiding : pattern.avoids char = true) (inLanguage : pattern.Matches text) : char ∉ text := by
  induction pattern generalizing text with
  | char inClass =>
      rcases inLanguage with ⟨other, rfl, accepted⟩
      intro member
      rw [← List.mem_singleton.mp member] at accepted
      simp [avoids, accepted] at avoiding
  | spelling expected =>
      rw [matches_spelling] at inLanguage
      rw [inLanguage]
      exact of_decide_eq_true avoiding
  | seq first second firstIh secondIh =>
      rcases inLanguage with ⟨left, right, rfl, firstMatches, secondMatches⟩
      rw [avoids, Bool.and_eq_true] at avoiding
      rw [List.mem_append, not_or]
      exact ⟨firstIh avoiding.1 firstMatches, secondIh avoiding.2 secondMatches⟩
  | either left right leftIh rightIh =>
      rw [avoids, Bool.and_eq_true] at avoiding
      rcases inLanguage with leftMatches | rightMatches
      · exact leftIh avoiding.1 leftMatches
      · exact rightIh avoiding.2 rightMatches
  | times least most body ih =>
      rcases inLanguage with ⟨parts, rfl, partsMatch, -⟩
      intro member
      rcases List.mem_flatten.mp member with ⟨part, partMember, charMember⟩
      exact ih avoiding (partsMatch part partMember) charMember

end Pattern

/-- The characters that open a gap between two lexemes. -/
def gapMarks : List Char :=
  [' ', '\t', '\n']

theorem isWordChar_eq_false_of_mem_gapMarks {mark : Char} (gap : mark ∈ gapMarks) :
    isWordChar mark = false := by
  have noWordChars : gapMarks.all (fun other => !isWordChar other) = true := by decide
  simpa using List.all_eq_true.mp noWordChars mark gap

/-- A text is empty or opens with a gap. -/
def OpensGap (rest : List Char) : Prop :=
  ∀ mark ∈ rest.head?, mark ∈ gapMarks

theorem opensGap_nil : OpensGap [] := by
  intro mark member
  contradiction

theorem OpensGap.any_head? {rest : List Char} (gap : OpensGap rest) :
    rest.head?.any isWordChar = false := by
  cases rest with
  | nil => rfl
  | cons mark later => exact isWordChar_eq_false_of_mem_gapMarks (gap mark rfl)

namespace Kind

variable {kind other : Kind} {text piece rest : List Char}

/-- Kinds whose lexemes hold no gaps. -/
def isSolid : Kind → Bool
  | .trivia _ | .quoted _ => false
  | _ => true

theorem notMem_of_isSolid (solid : kind.isSolid = true) {mark : Char} (gap : mark ∈ gapMarks)
    (found : kind.lexeme? text = some piece) : mark ∉ piece := by
  have allAvoid : all.all (fun kind => !kind.isSolid ||
      gapMarks.all fun mark => kind.pattern.avoids mark) = true := by decide
  have avoiding := List.all_eq_true.mp allAvoid kind (mem_all kind)
  rw [solid, Bool.not_true, Bool.false_or] at avoiding
  exact Pattern.notMem_of_avoids (List.all_eq_true.mp avoiding mark gap) (fits_of_lexeme? found).2.1

/-- What the order of priority leaves to be compared of the kinds whose lexemes may hold gaps and
the kinds that carry meaning. -/
theorem eq_or_of_notSolid {first : Char} (mark : first ∈ marks) (rival : kind ∈ rivals first)
    (otherRival : other ∈ rivals first) (before : kind.rank < other.rank)
    (notSolid : kind.isSolid = false) (significant : other.isTrivia = false) :
    (kind = .trivia .blockComment ∨ kind = .trivia .lineComment) ∧ other = .operator .divide ∨
      kind = .quoted .textBlock ∧ other = .quoted .string := by
  have compared : marks.all (fun mark =>
      (rivals mark).all fun kind => (rivals mark).all fun other =>
        kind.rank < other.rank → kind.isSolid = false → other.isTrivia = false →
          (kind = .trivia .blockComment ∨ kind = .trivia .lineComment) ∧
              other = .operator .divide ∨
            kind = .quoted .textBlock ∧ other = .quoted .string) = true := by decide
  simp only [List.all_eq_true, decide_eq_true_eq] at compared
  exact compared first mark kind rival other otherRival before notSolid significant

theorem exists_trivia_of_isTrivia (trivia : kind.isTrivia = true) :
    ∃ form, kind = .trivia form := by
  cases kind with
  | trivia form => exact ⟨form, rfl⟩
  | punctuation form => contradiction
  | number form => contradiction
  | quoted form => contradiction
  | keyword word => contradiction
  | operator sign => contradiction
  | identifier => contradiction

/-- Only blanks open with a gap. -/
theorem isTrivia_of_mem_rivals {mark : Char} (gap : mark ∈ gapMarks) (rival : kind ∈ rivals mark) :
    kind.isTrivia = true := by
  have blanks : gapMarks.all (fun mark => (rivals mark).all isTrivia) = true := by decide
  exact List.all_eq_true.mp (List.all_eq_true.mp blanks mark gap) kind rival

theorem mem_marks_of_opens {first : Char} (notSolid : kind.isSolid = false)
    (opening : kind.opens first = true) : first ∈ marks := by
  have member : first ∈ kind.openingMarks := by
    cases kind with
    | trivia form => simpa [opens, opensWithLetter, opensWithDigit] using opening
    | quoted form => simpa [opens, opensWithLetter, opensWithDigit] using opening
    | punctuation form => contradiction
    | number form => contradiction
    | keyword word => contradiction
    | operator sign => contradiction
    | identifier => contradiction
  exact mem_marks_of_mem_openingMarks member

/-- No comment goes on behind a sign of division with a gap. -/
theorem notMem_gapMarks_of_comment (comment : kind = .trivia .blockComment ∨
    kind = .trivia .lineComment) {mark : Char} {later : List Char}
    (inLanguage : kind.pattern.Matches ('/' :: mark :: later)) : mark ∉ gapMarks := by
  rcases comment with rfl | rfl
  · rcases Trivia.matches_blockComment.mp inLanguage with ⟨body, parts⟩
    rcases List.cons.inj (List.cons.inj parts).2 with ⟨rfl, -⟩
    decide
  · rcases Trivia.matches_lineComment.mp inLanguage with ⟨body, closing, parts, -, -⟩
    rcases List.cons.inj (List.cons.inj parts).2 with ⟨rfl, -⟩
    decide

/-- No text block goes on behind a string with a gap: only an empty string opens like one, and the
third quote follows it at once. -/
theorem notMem_gapMarks_of_textBlock (alone : QuotedForm.string? text = some text) {mark : Char}
    {later : List Char}
    (inLanguage : (Pattern.ofQuoted .textBlock).Matches (text ++ mark :: later)) :
    mark ∉ gapMarks := by
  rcases QuotedForm.matches_textBlock.mp inLanguage with ⟨body, parts, -⟩
  have markIs : mark = '"' := by
    rcases text with _ | ⟨first, _ | ⟨second, others⟩⟩
    · contradiction
    · exact (List.cons.inj (List.cons.inj parts).2).1
    · rcases List.cons.inj parts with ⟨rfl, secondParts⟩
      rcases List.cons.inj secondParts with ⟨rfl, othersParts⟩
      have empty : ['"', '"'] = '"' :: '"' :: others := Option.some.inj alone
      rcases (List.cons.inj (List.cons.inj empty).2).2 with rfl
      exact (List.cons.inj othersParts).1
  rw [markIs]
  decide

/-- A text that carries meaning and is recognised by itself does not go on with a gap in what a kind
before it takes. -/
theorem lexeme?_ne_some_append_gap (alone : other.lexeme? text = some text)
    (significant : other.isTrivia = false) (before : kind.rank < other.rank) {mark : Char}
    (gap : mark ∈ gapMarks) {whole later : List Char} :
    kind.lexeme? whole ≠ some (text ++ mark :: later) := by
  intro found
  have inLanguage := (fits_of_lexeme? found).2.1
  cases solid : kind.isSolid with
  | true => exact notMem_of_isSolid solid gap found (by simp)
  | false =>
      -- both open with the same mark, and few kinds share one
      cases text with
      | nil => exact (lexeme?_starts alone).1 rfl
      | cons first behind =>
          have opening : kind.opens first = true := opens_of_matches inLanguage
          have rival := mem_rivals_iff.mpr opening
          have otherRival := mem_rivals_iff.mpr (opens_of_lexeme? alone)
          have firstMark := mem_marks_of_opens solid opening
          rcases eq_or_of_notSolid firstMark rival otherRival before solid significant with
            ⟨comment, rfl⟩ | ⟨rfl, rfl⟩
          · have spelled : ['/'] = first :: behind := (spelled?_eq_some_iff.mp alone).1
            rw [← spelled] at inLanguage
            exact notMem_gapMarks_of_comment comment inLanguage gap
          · exact notMem_gapMarks_of_textBlock alone inLanguage gap

/-- What a kind before it takes where a lexeme and a gap stand lies within the lexeme. -/
theorem isPrefix_of_lexeme?_append_gap (alone : other.lexeme? text = some text)
    (significant : other.isTrivia = false) (before : kind.rank < other.rank)
    (gap : OpensGap rest) (found : kind.lexeme? (text ++ rest) = some piece) : piece <+: text := by
  have pieceStarts := (lexeme?_starts found).2
  have textStarts := List.prefix_append text rest
  rcases Nat.le_total piece.length text.length with shorter | longer
  · exact List.prefix_of_prefix_length_le pieceStarts textStarts shorter
  · rcases List.prefix_of_prefix_length_le textStarts pieceStarts longer with ⟨more, rfl⟩
    cases more with
    | nil => simp
    | cons mark later =>
        rcases (List.prefix_append_right_inj text).mp pieceStarts with ⟨behind, rfl⟩
        exact absurd found (lexeme?_ne_some_append_gap alone significant before (gap mark rfl))

/-! ## What stands in front -/

variable {previous : Option UInt8}

/-- Where the byte before ends no operand, a kind recognises what it recognises anywhere. -/
theorem lexemeAfter?_of_noOperand (noOperand : previous.any mayEndOperand = false)
    (kind : Kind) (text : List Char) : kind.lexemeAfter? previous text = kind.lexeme? text := by
  have noWord : previous.any isWordByte = false := by
    cases previous with
    | none => rfl
    | some byte =>
        simp only [Option.any_some, mayEndOperand, Bool.or_eq_false_iff] at noOperand
        exact noOperand.1.1
  have fitsHere : kind.fitsAfter previous text = true := by
    simp [fitsAfter, noOperand, noWord]
  rw [lexemeAfter?, if_pos fitsHere]

end Kind

namespace Lexeme

variable {previous : Option UInt8} {lexeme : Lexeme} {rest : List Char}

/-- A lexeme that carries meaning and is picked with nothing around it is picked in front of a gap,
where the byte before it ends no operand. -/
theorem first?_append_of_gap (alone : first? none lexeme.text = some lexeme)
    (significant : lexeme.kind.isTrivia = false) (gap : OpensGap rest)
    (noOperand : previous.any mayEndOperand = false) :
    first? previous (lexeme.text ++ rest) = some lexeme := by
  rcases first?_eq_some_iff.mp alone with ⟨recognised, earlierFail⟩
  rw [Kind.lexemeAfter?_of_noOperand rfl] at recognised
  apply first?_eq_some_iff.mpr
  rw [Kind.lexemeAfter?_of_noOperand noOperand]
  constructor
  · apply Kind.lexeme?_append recognised
    refine ⟨?_, ?_, ?_⟩
    · intro _
      exact gap.any_head?
    · intro isSpaces
      rw [isSpaces] at significant
      contradiction
    · intro isLine
      rw [isLine] at significant
      contradiction
  · intro kind before
    rw [Kind.lexemeAfter?_of_noOperand noOperand, Option.eq_none_iff_forall_not_mem]
    intro piece found
    -- a kind before it would take its piece without the gap as well
    have within := Kind.isPrefix_of_lexeme?_append_gap recognised significant before gap found
    have parts : PartsWords lexeme.text rest := fun _ => gap.any_head?
    have pieceAlone := Kind.lexeme?_of_append found within parts
    have fails := earlierFail kind before
    rw [Kind.lexemeAfter?_of_noOperand rfl, pieceAlone] at fails
    contradiction

/-- A comment or blank is picked wherever it is recognised. -/
theorem first?_of_isTrivia (trivia : lexeme.kind.isTrivia = true) {text : List Char}
    (found : lexeme.kind.lexeme? text = some lexeme.text) (previous : Option UInt8) :
    first? previous text = some lexeme := by
  rcases lexeme with ⟨kind, piece⟩
  rcases Kind.exists_trivia_of_isTrivia trivia with ⟨form, rfl⟩
  have starts := Kind.lexeme?_starts found
  apply first?_eq_some_iff.mpr
  constructor
  · apply Kind.lexemeAfter?_eq_some_iff.mpr
    exact ⟨rfl, found⟩
  · intro kind before
    rw [Option.eq_none_iff_forall_not_mem]
    intro other otherFound
    have otherHere := (Kind.lexemeAfter?_eq_some_iff.mp otherFound).2
    cases text with
    | nil => exact starts.1 (List.prefix_nil.mp starts.2)
    | cons first later =>
        have opening := Kind.opens_of_lexeme? found
        have rival := Kind.mem_rivals_iff.mpr opening
        have otherRival := Kind.mem_rivals_of_lexemeAfter? otherFound
        have mark := Kind.mem_marks_of_opens rfl opening
        rcases Kind.eq_or_of_mem_rivals mark otherRival rival (Nat.le_of_lt before) with
          same | single | ⟨rfl, same⟩ | ⟨-, same⟩
        · rw [same] at before
          exact Nat.lt_irrefl _ before
        · contradiction
        · rw [same] at found
          have lineComment : Trivia.lineComment? (first :: later) = some piece := found
          rw [Kind.lineComment?_eq_none_of_blockComment? otherHere] at lineComment
          contradiction
        · contradiction

/-- The characters that open a gap are always read, so no scan fails in front of one. -/
theorem notMem_gapMarks_of_first?_eq_none {previous : Option UInt8} {char : Char}
    {later : List Char} (stuck : first? previous (char :: later) = none) : char ∉ gapMarks := by
  intro gap
  simp only [gapMarks, List.mem_cons, List.not_mem_nil, or_false] at gap
  rcases gap with rfl | rfl | rfl
  · have unread := first?_eq_none_iff.mp stuck (.trivia .spaces)
    contradiction
  · have unread := first?_eq_none_iff.mp stuck (.trivia .tab)
    contradiction
  · have unread := first?_eq_none_iff.mp stuck (.trivia .newline)
    contradiction

end Lexeme

end Lexis
