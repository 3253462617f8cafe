import Lexis.Proofs.Tiling

/-!
# Readings

Lexemes are a reading of a text where each of them is the one that is picked at its place, with all
that follows it still in view. What `lex` finds is a reading that cannot be carried on. A reading
can be cut at any of its lexemes, and readings that follow each other can be put together, as long
as each part is taken with the text behind it.

The places that the scan of a source comes to are the ends of the parts of its reading. The tokens
before and behind such a place are told apart by where they start.
-/

namespace Lexis

/-- Lexemes that are picked one after the other between a text and a rest that is not read. -/
inductive Reading : List Char → List Lexeme → List Char → Prop where
  | stop (before rest : List Char) : Reading before [] rest
  | pick {before rest : List Char} {lexeme : Lexeme} {later : List Lexeme}
      (found : Lexeme.first? (Text.lastByte? before)
        (lexeme.text ++ (later.flatMap Lexeme.text ++ rest)) = some lexeme)
      (goesOn : Reading (before ++ lexeme.text) later rest) : Reading before (lexeme :: later) rest

namespace Reading

variable {before rest : List Char} {earlier later : List Lexeme}

theorem append (front : Reading before earlier (later.flatMap Lexeme.text ++ rest))
    (back : Reading (before ++ earlier.flatMap Lexeme.text) later rest) :
    Reading before (earlier ++ later) rest := by
  induction earlier generalizing before with
  | nil => simpa using back
  | cons lexeme others ih =>
      cases front with
      | pick found goesOn =>
          apply Reading.pick
          · simpa using found
          · apply ih goesOn
            simpa using back

theorem of_append (whole : Reading before (earlier ++ later) rest) :
    Reading before earlier (later.flatMap Lexeme.text ++ rest) ∧
      Reading (before ++ earlier.flatMap Lexeme.text) later rest := by
  induction earlier generalizing before with
  | nil => exact ⟨.stop _ _, by simpa using whole⟩
  | cons lexeme others ih =>
      cases whole with
      | pick found goesOn =>
          rcases ih goesOn with ⟨front, back⟩
          exact ⟨.pick (by simpa using found) front, by simpa using back⟩

theorem tail {lexeme : Lexeme} (reading : Reading before (lexeme :: later) rest) :
    Reading (before ++ lexeme.text) later rest := by
  cases reading with
  | pick _ goesOn => exact goesOn

theorem lexeme?_eq {lexeme : Lexeme} (reading : Reading before (lexeme :: later) rest) :
    lexeme.kind.lexeme? (lexeme.text ++ (later.flatMap Lexeme.text ++ rest)) =
      some lexeme.text := by
  cases reading with
  | pick found _ =>
      exact (Kind.lexemeAfter?_eq_some_iff.mp (Lexeme.lexemeAfter?_of_first?_eq_some found)).2

theorem text_ne_nil {lexemes : List Lexeme} (reading : Reading before lexemes rest) :
    ∀ lexeme ∈ lexemes, lexeme.text ≠ [] := by
  induction reading with
  | stop before rest => exact List.forall_mem_nil _
  | pick found _ ih => exact List.forall_mem_cons.mpr ⟨(Lexeme.first?_starts found).1, ih⟩

theorem flatMap_text_ne_nil {lexeme : Lexeme} (reading : Reading before (lexeme :: later) rest) :
    (lexeme :: later).flatMap Lexeme.text ≠ [] := by
  simp [reading.text_ne_nil lexeme List.mem_cons_self]

/-- What is read in front of a rest does not change how the rest is read. -/
theorem lex_eq {lexemes : List Lexeme} (reading : Reading before lexemes rest) :
    lex (Text.lastByte? before) (lexemes.flatMap Lexeme.text ++ rest) =
      (lexemes ++ (lex (Text.lastByte? (before ++ lexemes.flatMap Lexeme.text)) rest).1,
        (lex (Text.lastByte? (before ++ lexemes.flatMap Lexeme.text)) rest).2) := by
  induction reading with
  | stop before rest => simp
  | @pick before rest lexeme later found _ ih =>
      have nonempty := (Lexeme.first?_starts found).1
      rw [Text.lastByte?_append nonempty] at ih
      simp only [List.flatMap_cons, List.append_assoc, lex_of_first?_eq_some found,
        List.drop_left, Lexeme.lastByte?]
      rw [ih]
      simp

/-- Where nothing is left, the reading is what `lex` finds. -/
theorem lex_eq_of_nil {lexemes : List Lexeme} (reading : Reading before lexemes []) :
    lex (Text.lastByte? before) (lexemes.flatMap Lexeme.text) = (lexemes, []) := by
  have whole := reading.lex_eq
  rwa [List.append_nil, lex_of_first?_eq_none (Lexeme.first?_nil _), List.append_nil] at whole

end Reading

/-- What `lex` finds is a reading. -/
theorem reading_lex (before text : List Char) :
    Reading before (lex (Text.lastByte? before) text).1 (lex (Text.lastByte? before) text).2 := by
  generalize previousIs : Text.lastByte? before = previous
  induction previous, text using lex.induct generalizing before with
  | case1 previous text stuck =>
      rw [lex_of_first?_eq_none stuck]
      exact .stop before text
  | case2 previous text lexeme found later left equal ih =>
      subst previousIs
      have starts := Lexeme.first?_starts found
      have goesOn := ih (before ++ lexeme.text) (Text.lastByte?_append starts.1)
      rw [lex_of_first?_eq_some found]
      refine .pick ?_ goesOn
      rw [flatMap_text_lex, starts.append_drop]
      exact found

/-- The lexeme of a token. -/
def Token.lexeme (token : Token) : Lexeme where
  kind := token.kind
  text := token.value.toList

namespace Lexeme

/-! ## Placing the parts of a reading -/

variable {file : String} {cursor : Cursor} {earlier later : List Lexeme}

theorem endOf_append (cursor : Cursor) (earlier later : List Lexeme) :
    endOf cursor (earlier ++ later) = endOf (endOf cursor earlier) later := by
  simp [endOf, Cursor.past_append]

theorem offset_endOf (cursor : Cursor) (lexemes : List Lexeme) :
    (endOf cursor lexemes).offset = cursor.offset + Text.size (lexemes.flatMap Lexeme.text) := by
  simp [endOf]

theorem offset_endOf_start (lexemes : List Lexeme) :
    (endOf .start lexemes).offset = Text.size (lexemes.flatMap Lexeme.text) := by
  rw [offset_endOf]
  exact Nat.zero_add _

theorem place_append (file : String) (cursor : Cursor) (earlier later : List Lexeme) :
    place file cursor (earlier ++ later) =
      place file cursor earlier ++ place file (endOf cursor earlier) later := by
  induction earlier generalizing cursor with
  | nil => rfl
  | cons lexeme others ih =>
      simp only [List.cons_append, place, ih]
      simp [endOf, Cursor.past_append]

theorem map_lexeme_place (file : String) (cursor : Cursor) (lexemes : List Lexeme) :
    (place file cursor lexemes).map Token.lexeme = lexemes := by
  induction lexemes generalizing cursor with
  | nil => rfl
  | cons lexeme others ih => simp [place, token, Token.lexeme, ih]

/-- A token that is placed is that of a lexeme at the place behind the lexemes before it. -/
theorem exists_parts_of_mem_place {lexemes : List Lexeme} {token : Token}
    (member : token ∈ place file cursor lexemes) :
    ∃ earlier lexeme later, lexemes = earlier ++ lexeme :: later ∧
      token = lexeme.token file (endOf cursor earlier) := by
  induction lexemes generalizing cursor with
  | nil => simp [place] at member
  | cons first others ih =>
      rcases List.mem_cons.mp member with rfl | member
      · exact ⟨[], first, others, rfl, rfl⟩
      · rcases ih member with ⟨earlier, lexeme, later, rfl, rfl⟩
        refine ⟨first :: earlier, lexeme, later, rfl, ?_⟩
        simp [endOf, Cursor.past_append]

theorem offset_le_start_of_mem_place {lexemes : List Lexeme} {token : Token}
    (member : token ∈ place file cursor lexemes) : cursor.offset ≤ token.start := by
  rcases exists_parts_of_mem_place member with ⟨earlier, lexeme, later, -, rfl⟩
  simp only [Token.start, Lexeme.token, offset_endOf]
  omega

theorem start_lt_of_mem_place {lexemes : List Lexeme} {token : Token}
    (nonempty : ∀ lexeme ∈ lexemes, lexeme.text ≠ [])
    (member : token ∈ place file cursor lexemes) :
    token.start < (endOf cursor lexemes).offset := by
  rcases exists_parts_of_mem_place member with ⟨earlier, lexeme, later, rfl, rfl⟩
  have positive := Text.size_pos (nonempty lexeme (by simp))
  simp only [Token.start, Lexeme.token, offset_endOf, List.flatMap_append, List.flatMap_cons,
    Text.size_append]
  omega

theorem filter_place_before (nonempty : ∀ lexeme ∈ earlier, lexeme.text ≠ []) :
    (place file cursor (earlier ++ later)).filter
      (fun token => decide (token.start < (endOf cursor earlier).offset)) =
        place file cursor earlier := by
  rw [place_append, List.filter_append, List.filter_eq_self.mpr, List.filter_eq_nil_iff.mpr,
    List.append_nil]
  · intro token member
    have behind := offset_le_start_of_mem_place member
    simpa using behind
  · intro token member
    have inFront := start_lt_of_mem_place nonempty member
    simpa using inFront

theorem filter_place_behind (nonempty : ∀ lexeme ∈ earlier, lexeme.text ≠ []) :
    (place file cursor (earlier ++ later)).filter
      (fun token => decide ((endOf cursor earlier).offset ≤ token.start)) =
        place file (endOf cursor earlier) later := by
  rw [place_append, List.filter_append, List.filter_eq_nil_iff.mpr, List.filter_eq_self.mpr,
    List.nil_append]
  · intro token member
    have behind := offset_le_start_of_mem_place member
    simpa using behind
  · intro token member
    have inFront := start_lt_of_mem_place nonempty member
    simpa using inFront

end Lexeme

namespace Source

variable {source : Source}

/-! ## Places that a scan comes to -/

/-- The places that the scan of a source comes to: its start, both ends of every token, the place
where it fails, and the end of the source where it does not fail. -/
inductive Reaches (source : Source) : Nat → Prop where
  | start : Reaches source 0
  | tokenStart {token : Token} (found : token ∈ source.scan.tokens) : Reaches source token.start
  | tokenStop {token : Token} (found : token ∈ source.scan.tokens) : Reaches source token.stop
  | failure {error : ScanError} (failed : source.allTokens = .error error) :
      Reaches source error.position.offset
  | finish {tokens : List Token} (complete : source.allTokens = .ok tokens) :
      Reaches source (Text.size source.content.toList)

/-- A place that the scan comes to lies behind some lexemes of the reading and before the others. -/
theorem Reaches.exists_parts {offset : Nat} (reached : source.Reaches offset) :
    ∃ earlier later, (lex none source.content.toList).1 = earlier ++ later ∧
      (Lexeme.endOf .start earlier).offset = offset := by
  cases reached with
  | start => exact ⟨[], _, rfl, rfl⟩
  | tokenStart found =>
      rcases Lexeme.exists_parts_of_mem_place found with ⟨earlier, lexeme, later, parts, rfl⟩
      exact ⟨earlier, lexeme :: later, parts, rfl⟩
  | tokenStop found =>
      rcases Lexeme.exists_parts_of_mem_place found with ⟨earlier, lexeme, later, parts, rfl⟩
      refine ⟨earlier ++ [lexeme], later, by simpa using parts, ?_⟩
      rw [Lexeme.endOf_append]
      simp [Lexeme.endOf, Token.stop, Lexeme.token]
  | failure failed =>
      have offsetIs := (lex_left_ne_nil_of_allTokens_eq_error failed).2
      exact ⟨_, [], (List.append_nil _).symm, offsetIs.symm⟩
  | finish complete =>
      have leftEmpty := (lex_left_eq_nil_of_allTokens_eq_ok complete).1
      have consumed := flatMap_text_lex none source.content.toList
      rw [leftEmpty, List.append_nil] at consumed
      refine ⟨_, [], (List.append_nil _).symm, ?_⟩
      rw [Lexeme.offset_endOf_start, consumed]

/-- The source and its reading are cut by a place that the scan comes to. -/
theorem Reaches.exists_reading {offset : Nat} (reached : source.Reaches offset) :
    ∃ earlier later left, lex none source.content.toList = (earlier ++ later, left) ∧
      cutAt source.content offset =
        .ok (earlier.flatMap Lexeme.text, later.flatMap Lexeme.text ++ left) ∧
      Reading [] earlier (later.flatMap Lexeme.text ++ left) ∧
      (Lexeme.endOf .start earlier).offset = offset := by
  rcases reached.exists_parts with ⟨earlier, later, lexemesAre, placed⟩
  have whole : Reading [] (lex none source.content.toList).1 (lex none source.content.toList).2 :=
    reading_lex [] source.content.toList
  have consumed := flatMap_text_lex none source.content.toList
  rw [lexemesAre] at whole consumed
  refine ⟨earlier, later, (lex none source.content.toList).2, ?_, ?_, whole.of_append.1, placed⟩
  · rw [← lexemesAre]
  · apply cutAt_eq_ok_iff.mpr
    refine ⟨by simpa using consumed.symm, ?_⟩
    rw [← placed, Lexeme.offset_endOf_start]

/-- The scan of a source from a place on puts the lexemes that `lex` finds there in their places. -/
theorem scanFrom_of_lex_eq {previous : Option UInt8} {rest left : List Char}
    {lexemes : List Lexeme} (lexed : lex previous rest = (lexemes, left)) (source : Source)
    (cursor : Cursor) :
    source.scanFrom cursor previous rest =
      { tokens := Lexeme.place source.file cursor lexemes
        failure? :=
          if left = [] then none
          else some (ScanError.before source.content left
            { offset := (Lexeme.endOf cursor lexemes).offset, file := source.file }
            (Lexeme.endOf cursor lexemes).line (Lexeme.endOf cursor lexemes).column) } := by
  simp [scanFrom, lexed]

/-- A source that a reading fills is scanned to its end, and the lexemes of the reading are put in
their places. -/
theorem allTokens_of_reading {lexemes : List Lexeme} (reading : Reading [] lexemes [])
    (fills : source.content.toList = lexemes.flatMap Lexeme.text) :
    source.allTokens = .ok (Lexeme.place source.file .start lexemes) := by
  have lexed : lex none source.content.toList = (lexemes, []) := by
    rw [fills]
    exact reading.lex_eq_of_nil
  rw [allTokens, scan, scanFrom_of_lex_eq lexed]
  rfl

/-- The tokens of a source that is scanned to its end are a reading that fills the source. -/
theorem reading_of_allTokens_eq_ok {tokens : List Token}
    (complete : source.allTokens = .ok tokens) :
    Reading [] (tokens.map Token.lexeme) [] ∧
      source.content.toList = (tokens.map Token.lexeme).flatMap Lexeme.text := by
  rcases lex_left_eq_nil_of_allTokens_eq_ok complete with ⟨leftEmpty, tokensAre⟩
  have lexemesAre : tokens.map Token.lexeme = (lex none source.content.toList).1 := by
    rw [← tokensAre]
    exact Lexeme.map_lexeme_place _ _ _
  have reading : Reading [] (lex none source.content.toList).1 (lex none source.content.toList).2 :=
    reading_lex [] source.content.toList
  have consumed := flatMap_text_lex none source.content.toList
  rw [leftEmpty] at reading consumed
  rw [lexemesAre]
  exact ⟨reading, by simpa using consumed.symm⟩

/-- The error of a scan that fails is the one at the place where its reading ends. -/
theorem error_eq_of_allTokens_eq_error {error : ScanError} {left : List Char}
    {lexemes : List Lexeme} (lexed : lex none source.content.toList = (lexemes, left))
    (failed : source.allTokens = .error error) :
    left ≠ [] ∧
      error = ScanError.before source.content left
        { offset := (Lexeme.endOf .start lexemes).offset, file := source.file }
        (Lexeme.endOf .start lexemes).line (Lexeme.endOf .start lexemes).column := by
  rw [allTokens, scan, scanFrom_of_lex_eq lexed] at failed
  rcases Decidable.em (left = []) with rfl | nonempty
  · contradiction
  · rw [if_neg nonempty] at failed
    exact ⟨nonempty, (Except.error.inj failed).symm⟩

end Source

end Lexis
