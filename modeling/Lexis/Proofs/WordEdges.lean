import Lexis.Proofs.Bookkeeping
import Lexis.Proofs.Failures
import Lexis.Proofs.Limits
import Lexis.Proofs.Truncation

/-!
# Words are not cut

A scan never comes to a place inside a word: what it reads in front of such a place would end with a
word character, and then the lexeme there would have gone on. So a word in the part that is scanned
lies in the one token that covers its first byte, for the end of that token is a place that the scan
comes to.

A scanner that is moved to a place inside a word by hand finds nothing there. Whatever opens with a
word character is bounded by words, and looks back at the byte before it.
-/

namespace Lexis

/-- An offset lies inside a word: the bytes on its two sides are word bytes. -/
structure InsideWord (sourceBytes : List UInt8) (offset : Nat) : Prop where
  positive : 0 < offset
  before : (sourceBytes[offset - 1]?).any isWordByte = true
  behind : (sourceBytes[offset]?).any isWordByte = true

/-- A range of bytes that are all word bytes. -/
def IsWordRange (sourceBytes : List UInt8) (start stop : Nat) : Prop :=
  ∀ index, start ≤ index → index < stop → (sourceBytes[index]?).any isWordByte = true

theorem IsWordRange.insideWord {sourceBytes : List UInt8} {start stop offset : Nat}
    (range : IsWordRange sourceBytes start stop) (behindStart : start < offset)
    (beforeStop : offset < stop) : InsideWord sourceBytes offset where
  positive := Nat.zero_lt_of_lt behindStart
  before := range (offset - 1) (Nat.le_sub_one_of_lt behindStart) (by omega)
  behind := range offset (Nat.le_of_lt behindStart) beforeStop

section Cut

variable {before rest : List Char}

theorem insideWord_iff_not_partsWords :
    InsideWord (Text.bytes (before ++ rest)) (Text.size before) ↔ ¬PartsWords before rest := by
  have behind : ((Text.bytes (before ++ rest))[Text.size before]?).any isWordByte =
      rest.head?.any isWordChar := by
    rw [Text.getElem?_bytes_at_cut, Text.any_isWordByte_head?_bytes]
  rcases Decidable.em (before = []) with rfl | nonempty
  · constructor
    · intro inside
      exact absurd inside.positive (Nat.lt_irrefl 0)
    · intro crosses
      exact absurd (fun inWord => by contradiction) crosses
  · have last : ((Text.bytes (before ++ rest))[Text.size before - 1]?).any isWordByte =
        before.getLast?.any isWordChar := by
      rw [Text.getElem?_bytes_before_cut nonempty, any_isWordByte_lastByte?]
    rw [PartsWords, Classical.not_imp, Bool.not_eq_false, ← last, ← behind]
    exact ⟨fun inside => ⟨inside.before, inside.behind⟩,
      fun sides => ⟨Text.size_pos nonempty, sides.1, sides.2⟩⟩

/-- A place inside a word lies between two characters, and nothing is recognised there. -/
theorem InsideWord.exists_stuck {content : String} {offset : Nat}
    (inside : InsideWord (Text.bytes content.toList) offset) :
    ∃ before rest, cutAt content offset = .ok (before, rest) ∧ rest ≠ [] ∧
      Lexeme.first? (Text.lastByte? before) rest = none := by
  rcases (Option.any_eq_true _ _).mp inside.behind with ⟨byte, atOffset, wordByte⟩
  rcases exists_cutAt_of_ascii atOffset (ascii_of_isWordChar wordByte) with ⟨before, later, cut⟩
  rcases cutAt_eq_ok_iff.mp cut with ⟨parts, placed⟩
  rw [parts, ← placed, insideWord_iff_not_partsWords, PartsWords, Classical.not_imp,
    Bool.not_eq_false, ← any_isWordByte_lastByte?] at inside
  exact ⟨before, _, cut, List.cons_ne_nil _ _,
    first?_eq_none_of_stuck (.insideWord inside.1 inside.2)⟩

end Cut

namespace Token

/-- Tokens that follow each other without a gap cover every byte between their ends. -/
theorem Fill.exists_covering {content : String} {tokens : List Token} {start stop index : Nat}
    (fill : Fill content start tokens stop) (behindStart : start ≤ index)
    (beforeStop : index < stop) : ∃ token ∈ tokens, token.start ≤ index ∧ index < token.stop := by
  induction tokens generalizing start with
  | nil =>
      have same : start = stop := fill
      omega
  | cons token later ih =>
      rcases fill with ⟨startIs, -, laterFill⟩
      rcases Nat.lt_or_ge index token.stop with inside | behind
      · exact ⟨token, List.mem_cons_self, by omega, inside⟩
      · rcases ih laterFill behind with ⟨covering, member, within⟩
        exact ⟨covering, List.mem_cons_of_mem token member, within⟩

end Token

namespace Source

variable {source : Source} {offset : Nat}

theorem Reaches.not_insideWord (reached : source.Reaches offset) :
    ¬InsideWord (Text.bytes source.content.toList) offset := by
  rcases reached.exists_reading with ⟨earlier, later, left, -, cut, front, -⟩
  rcases cutAt_eq_ok_iff.mp cut with ⟨parts, placed⟩
  rw [parts, ← placed, insideWord_iff_not_partsWords, not_not]
  exact front.partsWords

/-- No place that a scan comes to lies behind the last of its tokens. -/
theorem Reaches.le_endOf (reached : source.Reaches offset) :
    offset ≤ (Lexeme.endOf .start (lex none source.content.toList).1).offset := by
  rcases reached.exists_parts with ⟨earlier, later, lexemesAre, rfl⟩
  rw [lexemesAre, Lexeme.endOf_append, Lexeme.offset_endOf _ later]
  exact Nat.le_add_right _ _

/-- Word bytes that follow each other in the part of a source that is scanned lie in one token. -/
theorem Reaches.exists_token_of_isWordRange (reached : source.Reaches offset) {start stop : Nat}
    (range : IsWordRange (Text.bytes source.content.toList) start stop) (nonempty : start < stop)
    (scanned : stop ≤ offset) :
    ∃ token ∈ source.scan.tokens, token.start ≤ start ∧ stop ≤ token.stop := by
  have startScanned : start < (Lexeme.endOf .start (lex none source.content.toList).1).offset :=
    Nat.lt_of_lt_of_le nonempty (Nat.le_trans scanned reached.le_endOf)
  rcases (scan_tokens_fill source).exists_covering (Nat.zero_le start) startScanned with
    ⟨token, member, startsBefore, stopsBehind⟩
  refine ⟨token, member, startsBefore, ?_⟩
  -- the token would otherwise end inside the word
  by_contra cutsWord
  exact (Reaches.tokenStop member).not_insideWord
    (range.insideWord stopsBehind (Nat.lt_of_not_le cutsWord))

end Source

namespace Scanner

/-- A scanner inside a word fails where it stands, if a position can say where that is. -/
theorem TrueTo.answersUpTo_of_insideWord {scanner : Scanner} {source : Source}
    (trueTo : scanner.TrueTo source)
    (inside : InsideWord (Text.bytes source.content.toList) scanner.cursor.offset) :
    ∃ error, AnswersUpTo scanner.checkedRun scanner.cursor.offset (.error error) ∧
      error.position = { offset := scanner.cursor.offset, file := source.file } := by
  rcases trueTo with ⟨rfl, cursorTrue⟩
  rcases inside.exists_stuck with ⟨before, rest, cut, nonempty, stuck⟩
  rcases cutAt_eq_ok_iff.mp cut with ⟨parts, placed⟩
  have between : scanner.Between before rest :=
    ⟨parts, placed.symm, cursorTrue.lineStart_isGreatest.1.1⟩
  let error := ScanError.before scanner.source.content rest
    { offset := scanner.cursor.offset, file := scanner.source.file } scanner.cursor.line
    scanner.cursor.column
  have answers := (Scan.answersUpTo_checked_failure error).map (Except.map (scanner.gathered ++ ·))
  rw [← Source.scanFrom_of_first?_eq_none stuck nonempty, ← between.checkedRun_eq] at answers
  exact ⟨error, answers, rfl⟩

end Scanner

namespace Source

/-- The scan of a source comes to no place inside a word, so every word that it has passed lies in
one of its tokens. A scanner that is brought to a place inside a word, by whatever actions, fails at
that place, as far as positions reach. -/
theorem words_uncut (source : Source) :
    (∀ offset, source.Reaches offset →
      ¬InsideWord (Text.bytes source.content.toList) offset ∧
        ∀ start stop, start < stop → stop ≤ offset →
          IsWordRange (Text.bytes source.content.toList) start stop →
          ∃ token ∈ source.scan.tokens, token.start ≤ start ∧ stop ≤ token.stop) ∧
      ∀ actions scanner,
        ((Session.ofSource source).performAll actions).1.current = scanner →
        InsideWord (Text.bytes source.content.toList) scanner.cursor.offset →
        ∃ error, AnswersUpTo scanner.checkedRun scanner.cursor.offset (.error error) ∧
          error.position = { offset := scanner.cursor.offset, file := source.file } := by
  refine ⟨?_, ?_⟩
  · intro offset reached
    refine ⟨reached.not_insideWord, ?_⟩
    intro start stop nonempty scanned range
    exact reached.exists_token_of_isWordRange range nonempty scanned
  · rintro actions scanner rfl inside
    have trueTo := (Session.trueTo_ofSource source).performAll actions
    exact (trueTo _ List.mem_cons_self).answersUpTo_of_insideWord inside

/-- A scanner that is moved into the word of a comment fails there, and the word behind the comment
is one token. -/
theorem words_uncut_of_word_in_comment :
    let source : Source := { file := "s", content := "/*ab*/if" }
    let scanner : Scanner := { source := source, cursor := ⟨3, 1, 0⟩, gathered := [] }
    ((Session.ofSource source).performAll [.advance 3]).1.current = scanner ∧
      InsideWord (Text.bytes source.content.toList) scanner.cursor.offset ∧
      (∃ error, scanner.checkedRun = .ok (.error error) ∧
        error.position = { offset := 3, file := source.file }) ∧
      source.Reaches 8 ∧ IsWordRange (Text.bytes source.content.toList) 6 8 ∧
      ∃ token ∈ source.scan.tokens, token.start ≤ 6 ∧ 8 ≤ token.stop := by
  intro source scanner
  have driven : ((Session.ofSource source).performAll [.advance 3]).1.current = scanner := by
    decide +kernel
  have inside : InsideWord (Text.bytes source.content.toList) scanner.cursor.offset :=
    ⟨by decide, by decide +kernel, by decide +kernel⟩
  have found : { kind := .keyword .ifKw, value := "if", span := ⟨⟨6, "s"⟩, ⟨8, "s"⟩⟩, line := 1,
                 column := 6 } ∈ source.scan.tokens := by decide +kernel
  have reached : source.Reaches 8 := .tokenStop found
  have range : IsWordRange (Text.bytes source.content.toList) 6 8 := by
    intro index behindStart beforeStop
    have isOne : index = 6 ∨ index = 7 := by omega
    rcases isOne with rfl | rfl <;> decide +kernel
  rcases words_uncut source with ⟨uncut, fails⟩
  rcases fails _ scanner driven inside with ⟨error, answers, placed⟩
  exact ⟨driven, inside, ⟨error, answers.eq_ok (by decide), placed⟩, reached, range,
    (uncut 8 reached).2 6 8 (by decide) (Nat.le_refl 8) range⟩

end Source

end Lexis
