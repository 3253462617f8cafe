import Lexis.Proofs.Lookahead
import Lexis.Proofs.Printing
import Lexis.Proofs.Truncation

/-!
# Respaced lexemes

A text is respaced where some of its lexemes give way to a space or have one put in front of them,
and all others stay as they are, each next to what it stood next to. Nothing new is opened in this
way. The closing mark of a comment or text block holds no space, so where it stands in the respaced
text it is made of characters that stood together before. Nor does a backslash reach a character
that it did not reach: the only lexeme that may end with one is a line comment with nothing behind
it. So every lexeme that carries meaning and is kept is picked again.
-/

namespace Lexis

/-! ## Bodies -/

/-- A language whose texts stand between an opening and a closing mark. A backslash may take along
the next character, so a text is sure to be cut between two parts of a body where it is not behind
one. -/
structure IsBody (inBody : List Char → Prop) : Prop where
  settled {text : List Char} : text.getLast? ≠ some '\\' → inBody text
  append {front back : List Char} : inBody front → inBody back → inBody (front ++ back)
  cancel {front back : List Char} : inBody front → inBody (front ++ back) → inBody back

/-- Between a space and its closing mark a body is one by itself. -/
theorem IsBody.behind_space {inBody : List Char → Prop} (isBody : IsBody inBody)
    {front back : List Char} (bodyIn : inBody (front ++ ' ' :: back)) : inBody back := by
  have frontIn : inBody (front ++ [' ']) := isBody.settled (by simp)
  apply isBody.cancel frontIn
  simpa using bodyIn

theorem isBody_comment : IsBody fun _ => True where
  settled _ := trivial
  append _ _ := trivial
  cancel _ _ := trivial

namespace Pattern

variable {front back text : List Char}

theorem matches_zeroOrMore_append {pattern : Pattern}
    (frontMatches : pattern.zeroOrMore.Matches front)
    (backMatches : pattern.zeroOrMore.Matches back) :
    pattern.zeroOrMore.Matches (front ++ back) := by
  rcases frontMatches with ⟨parts, rfl, partsMatch, -⟩
  rcases backMatches with ⟨others, rfl, othersMatch, -⟩
  refine ⟨parts ++ others, List.flatten_append.symm, ?_, by simp, by simp⟩
  intro part member
  rcases List.mem_append.mp member with member | member
  · exact partsMatch part member
  · exact othersMatch part member

theorem matches_escapables_of_getLast? (settled : text.getLast? ≠ some '\\') :
    escapable.zeroOrMore.Matches text := by
  induction text using List.twoStepInduction with
  | nil => exact matches_zeroOrMore_nil
  | singleton first =>
      have plain : first ≠ '\\' := by
        rintro rfl
        exact settled rfl
      exact matches_escapables_cons.mpr (Or.inl ⟨plain, matches_zeroOrMore_nil⟩)
  | cons_cons first second others ih ihSecond =>
      rw [List.getLast?_cons_cons] at settled
      rcases Decidable.em (first = '\\') with rfl | plain
      · apply matches_escapables_cons.mpr
        refine Or.inr ⟨rfl, second, others, rfl, ?_⟩
        cases others with
        | nil => exact matches_zeroOrMore_nil
        | cons third later => exact ih (by rwa [List.getLast?_cons_cons] at settled)
      · exact matches_escapables_cons.mpr (Or.inl ⟨plain, ihSecond second settled⟩)

theorem matches_escapables_of_append (frontMatches : escapable.zeroOrMore.Matches front)
    (matchesWhole : escapable.zeroOrMore.Matches (front ++ back)) :
    escapable.zeroOrMore.Matches back := by
  induction front using List.twoStepInduction with
  | nil => exact matchesWhole
  | singleton first =>
      rcases matches_escapables_cons.mp frontMatches with ⟨plain, -⟩ | ⟨-, taken, rest, parts, -⟩
      · rcases matches_escapables_cons.mp matchesWhole with ⟨-, backMatches⟩ | ⟨rfl, -⟩
        · exact backMatches
        · contradiction
      · contradiction
  | cons_cons first second others ih ihSecond =>
      rcases matches_escapables_cons.mp frontMatches with
        ⟨plain, laterMatches⟩ | ⟨rfl, taken, rest, parts, restMatches⟩
      · rcases matches_escapables_cons.mp matchesWhole with ⟨-, wholeMatches⟩ | ⟨rfl, -⟩
        · exact ihSecond second laterMatches wholeMatches
        · contradiction
      · rcases List.cons.inj parts with ⟨rfl, rfl⟩
        rcases matches_escapables_cons.mp matchesWhole with
          ⟨plain, -⟩ | ⟨-, taken, rest, wholeParts, wholeMatches⟩
        · contradiction
        · rcases List.cons.inj wholeParts with ⟨rfl, rfl⟩
          exact ih restMatches wholeMatches

end Pattern

theorem isBody_textBlock : IsBody Pattern.escapable.zeroOrMore.Matches where
  settled := Pattern.matches_escapables_of_getLast?
  append := Pattern.matches_zeroOrMore_append
  cancel := Pattern.matches_escapables_of_append

/-! ## Last characters -/

/-- No lexeme ends with a backslash but a line comment that lacks its line feed. -/
theorem Kind.getLast?_ne_backslash {kind : Kind} {text : List Char}
    (inLanguage : kind.pattern.Matches text)
    (closed : kind = .trivia .lineComment → text.getLast? = some '\n') :
    text.getLast? ≠ some '\\' := by
  have ofWord (bounded : kind.isWordBounded = true) : text.getLast? ≠ some '\\' := by
    have inWord := any_getLast?_of_matches bounded inLanguage
    intro lastIs
    rw [lastIs] at inWord
    contradiction
  cases kind with
  | number form => exact ofWord rfl
  | keyword word => exact ofWord rfl
  | identifier => exact ofWord rfl
  | trivia form =>
      have formClosed : form = .lineComment → text.getLast? = some '\n' := by
        rintro rfl
        exact closed rfl
      rcases Trivia.exists_closingMark_of_matches inLanguage formClosed with ⟨last, mark, lastIs⟩
      rw [lastIs]
      rintro ⟨⟩
      revert mark
      decide
  | quoted form =>
      rcases QuotedForm.exists_quote_of_matches inLanguage with quote | quote
      · simp [quote]
      · simp [quote]
  | punctuation form =>
      rw [pattern, Pattern.matches_spelling] at inLanguage
      subst inLanguage
      cases form <;> decide
  | operator sign =>
      rw [pattern, Pattern.matches_spelling] at inLanguage
      subst inLanguage
      cases sign <;> decide

namespace Reading

variable {before : List Char} {lexeme : Lexeme} {later : List Lexeme}

/-- Only the last lexeme of a text may be a line comment without a line feed. -/
theorem closes (reading : Reading before (lexeme :: later) [])
    (isLine : lexeme.kind = .trivia .lineComment) :
    lexeme.text.getLast? = some '\n' ∨ later = [] := by
  rcases (Kind.endsBefore_of_lexeme? reading.lexeme?_eq).line isLine with feed | empty
  · exact Or.inl feed
  · cases later with
    | nil => exact Or.inr rfl
    | cons next others => exact absurd (by simpa using empty) reading.tail.flatMap_text_ne_nil

/-- The first lexeme of a reading does not end with a backslash where others follow it. -/
theorem getLast?_ne_backslash (reading : Reading before (lexeme :: later) []) :
    lexeme.text.getLast? ≠ some '\\' ∨ later = [] := by
  rcases Decidable.em (later = []) with empty | nonempty
  · exact Or.inr empty
  · left
    apply Kind.getLast?_ne_backslash (Kind.fits_of_lexeme? reading.lexeme?_eq).2.1
    intro isLine
    exact (reading.closes isLine).resolve_right nonempty

end Reading

/-! ## Respacing -/

/-- A text in which some lexemes give way to a space, and spaces are put in front of some. -/
inductive Respaced : List Lexeme → List Char → Prop where
  | finish : Respaced [] []
  | trail : Respaced [] [' ']
  | keep {later : List Lexeme} {text : List Char} (lexeme : Lexeme)
      (goesOn : Respaced later text) : Respaced (lexeme :: later) (lexeme.text ++ text)
  | replace {later : List Lexeme} {text : List Char} (lexeme : Lexeme)
      (goesOn : Respaced later text) : Respaced (lexeme :: later) (' ' :: text)
  | insert {lexeme : Lexeme} {later : List Lexeme} {text : List Char}
      (goesOn : Respaced (lexeme :: later) text) : Respaced (lexeme :: later) (' ' :: text)

/-- A piece without spaces lies in front of a space or behind it. -/
theorem exists_parts_of_append_space {front text body mark rest : List Char} (marked : mark ≠ [])
    (noSpace : ' ' ∉ mark) (parts : front ++ ' ' :: text = body ++ (mark ++ rest)) :
    (∃ more, front = body ++ (mark ++ more)) ∨
      ∃ back, body = front ++ ' ' :: back ∧ text = back ++ (mark ++ rest) := by
  rcases List.append_eq_append_iff.mp parts with ⟨back, rfl, behind⟩ | ⟨more, rfl, behind⟩
  · cases back with
    | nil =>
        cases mark with
        | nil => contradiction
        | cons first others =>
            rcases (List.cons.inj behind).1 with rfl
            exact absurd List.mem_cons_self noSpace
    | cons first others =>
        rcases List.cons.inj behind with ⟨rfl, textIs⟩
        exact Or.inr ⟨others, rfl, textIs⟩
  · rcases List.append_eq_append_iff.mp behind with ⟨others, rfl, -⟩ | ⟨others, rfl, restIs⟩
    · exact Or.inl ⟨others, rfl⟩
    · cases others with
      | nil => exact Or.inl ⟨[], by simp⟩
      | cons first later =>
          rcases (List.cons.inj restIs).1 with rfl
          exact absurd (by simp) noSpace

namespace Respaced

variable {before text : List Char} {lexemes : List Lexeme}

/-- A respaced text begins with some lexemes as they were, and then it ends or has a space. -/
theorem exists_front (respaced : Respaced lexemes text) :
    ∃ front back tail, lexemes = front ++ back ∧ text = front.flatMap Lexeme.text ++ tail ∧
      OpensGap tail := by
  have opensGap_space (later : List Char) : OpensGap (' ' :: later) := by
    intro mark member
    rcases Option.some.inj member with rfl
    exact List.mem_cons_self
  induction respaced with
  | finish => exact ⟨[], [], [], rfl, rfl, opensGap_nil⟩
  | trail => exact ⟨[], [], [' '], rfl, rfl, opensGap_space _⟩
  | keep lexeme _ ih =>
      rcases ih with ⟨front, back, tail, rfl, rfl, gap⟩
      exact ⟨lexeme :: front, back, tail, rfl, by simp, gap⟩
  | replace lexeme _ _ => exact ⟨[], _, _, rfl, rfl, opensGap_space _⟩
  | insert _ _ => exact ⟨[], _, _, rfl, rfl, opensGap_space _⟩

/-- Where a respaced text does not begin with a space, its first lexeme is kept. -/
theorem exists_keep {first : Char} (respaced : Respaced lexemes (first :: text))
    (reading : Reading before lexemes []) (notSpace : first ≠ ' ') :
    ∃ lexeme later inner behind, lexemes = lexeme :: later ∧ lexeme.text = first :: inner ∧
      text = inner ++ behind ∧ Respaced later behind := by
  generalize wholeIs : first :: text = whole at respaced
  cases respaced with
  | finish => contradiction
  | trail => exact absurd (List.cons.inj wholeIs).1 notSpace
  | replace lexeme _ => exact absurd (List.cons.inj wholeIs).1 notSpace
  | insert _ => exact absurd (List.cons.inj wholeIs).1 notSpace
  | @keep later behind lexeme goesOn =>
      have nonempty := reading.text_ne_nil lexeme List.mem_cons_self
      cases textIs : lexeme.text with
      | nil => contradiction
      | cons head inner =>
          rw [textIs] at wholeIs
          rcases List.cons.inj wholeIs with ⟨rfl, behindIs⟩
          exact ⟨lexeme, later, inner, behind, rfl, textIs, behindIs, goesOn⟩

/-- A body with a closing mark behind it was there before the text was respaced, and what stands in
front of the lexemes may be a part of it. -/
theorem mark_of_mark {inBody : List Char → Prop} (isBody : IsBody inBody)
    (respaced : Respaced lexemes text) (reading : Reading before lexemes [])
    {front body mark rest : List Char} (marked : mark ≠ []) (noSpace : ' ' ∉ mark)
    (settled : front.getLast? ≠ some '\\' ∨ lexemes = []) (bodyIn : inBody body)
    (parts : front ++ text = body ++ (mark ++ rest)) :
    ∃ body rest, front ++ lexemes.flatMap Lexeme.text = body ++ (mark ++ rest) ∧ inBody body := by
  have nothingBefore : ([] : List Char).getLast? ≠ some '\\' := by simp
  -- what is in front of a space is cut off, and the induction goes on behind the space
  induction respaced generalizing before front body with
  | finish => exact ⟨body, rest, parts, bodyIn⟩
  | trail =>
      rcases exists_parts_of_append_space marked noSpace parts with ⟨more, rfl⟩ | ⟨back, -, empty⟩
      · exact ⟨body, more, by simp, bodyIn⟩
      · simp [marked] at empty
  | @keep later text lexeme goesOn ih =>
      have nonempty := reading.text_ne_nil lexeme List.mem_cons_self
      have lexemeSettled := reading.getLast?_ne_backslash
      have frontSettled : (front ++ lexeme.text).getLast? ≠ some '\\' ∨ later = [] := by
        rw [List.getLast?_append, List.getLast?_eq_some_getLast nonempty]
        rwa [List.getLast?_eq_some_getLast nonempty] at lexemeSettled
      have kept := ih reading.tail frontSettled bodyIn (by simpa using parts)
      simpa using kept
  | @replace later text lexeme goesOn ih =>
      rcases exists_parts_of_append_space marked noSpace parts with
        ⟨more, rfl⟩ | ⟨back, rfl, textParts⟩
      · exact ⟨body, more ++ (lexeme :: later).flatMap Lexeme.text, by simp, bodyIn⟩
      · rcases ih reading.tail (Or.inl nothingBefore) (isBody.behind_space bodyIn) textParts with
          ⟨body, rest, laterParts, inBodyLater⟩
        rw [List.nil_append] at laterParts
        refine ⟨front ++ (lexeme.text ++ body), rest, by simp [laterParts], ?_⟩
        have lexemeIn : inBody lexeme.text := by
          apply isBody.settled
          apply reading.getLast?_ne_backslash.resolve_right
          rintro rfl
          simp [marked] at laterParts
        exact isBody.append (isBody.settled (settled.resolve_right (by simp)))
          (isBody.append lexemeIn inBodyLater)
  | @insert lexeme later text goesOn ih =>
      rcases exists_parts_of_append_space marked noSpace parts with
        ⟨more, rfl⟩ | ⟨back, rfl, textParts⟩
      · exact ⟨body, more ++ (lexeme :: later).flatMap Lexeme.text, by simp, bodyIn⟩
      · rcases ih reading (Or.inl nothingBefore) (isBody.behind_space bodyIn) textParts with
          ⟨body, rest, laterParts, inBodyLater⟩
        rw [List.nil_append] at laterParts
        refine ⟨front ++ body, rest, by simp [laterParts], ?_⟩
        exact isBody.append (isBody.settled (settled.resolve_right (by simp))) inBodyLater

/-- What opens, goes on with a body and closes was there before the text was respaced. -/
theorem opening_of_opening {inBody : List Char → Prop} (isBody : IsBody inBody)
    (respaced : Respaced lexemes text) (reading : Reading before lexemes [])
    {first : Char} {body mark rest : List Char} (notSpace : first ≠ ' ') (marked : mark ≠ [])
    (noSpace : ' ' ∉ mark) (bodyIn : inBody body)
    (parts : text = first :: (body ++ (mark ++ rest))) :
    ∃ body rest, lexemes.flatMap Lexeme.text = first :: (body ++ (mark ++ rest)) ∧
      inBody body := by
  subst parts
  rcases respaced.exists_keep reading notSpace with
    ⟨lexeme, later, inner, behind, rfl, lexemeIs, behindIs, goesOn⟩
  have settled : inner.getLast? ≠ some '\\' ∨ later = [] := by
    apply reading.getLast?_ne_backslash.imp_left
    intro lexemeSettled innerEnds
    apply lexemeSettled
    rw [lexemeIs, List.getLast?_cons, innerEnds]
    rfl
  rcases goesOn.mark_of_mark isBody reading.tail marked noSpace settled bodyIn behindIs.symm with
    ⟨body, rest, laterParts, inBodyLater⟩
  exact ⟨body, rest, by simp [lexemeIs, laterParts], inBodyLater⟩

theorem opensNothing (respaced : Respaced lexemes text) (reading : Reading before lexemes [])
    (lexeme : Lexeme) : lexeme.OpensNothing (lexemes.flatMap Lexeme.text) text where
  line _ slash := by
    cases text with
    | nil => contradiction
    | cons first others =>
        rcases Option.some.inj slash with rfl
        rcases respaced.exists_keep reading (by decide) with
          ⟨next, later, inner, behind, rfl, nextIs, -, -⟩
        simp [nextIs]
  comment _ body later newParts := by
    rcases respaced.opening_of_opening isBody_comment reading (by decide) (by decide) (by decide)
      trivial newParts with ⟨body, rest, oldParts, -⟩
    exact ⟨body, rest, oldParts⟩
  textBlock _ _ body later newParts bodyIn :=
    respaced.opening_of_opening isBody_textBlock reading (by decide) (by decide) (by decide)
      bodyIn newParts

/-- A lexeme that carries meaning is picked again in front of what follows it, respaced. -/
theorem first?_eq {lexeme : Lexeme} (respaced : Respaced lexemes text)
    (reading : Reading before (lexeme :: lexemes) []) (significant : lexeme.kind.isTrivia = false) :
    Lexeme.first? (Text.lastByte? before) (lexeme.text ++ text) = some lexeme := by
  rcases respaced.exists_front with ⟨front, back, tail, rfl, rfl, gap⟩
  have frontReading : Reading before (lexeme :: front) (back.flatMap Lexeme.text ++ []) :=
    reading.of_append.1
  rw [List.append_nil] at frontReading
  have oldParts : PartsWords (lexeme.text ++ front.flatMap Lexeme.text)
      (back.flatMap Lexeme.text) := frontReading.partsWords
  have opensNothing := respaced.opensNothing reading.tail lexeme
  rw [List.flatMap_append] at opensNothing
  cases reading with
  | pick found _ =>
      rw [List.append_nil, List.flatMap_append] at found
      exact Lexeme.first?_of_gapAt found significant oldParts (Or.inl gap) opensNothing

end Respaced

end Lexis
