import Lexis.Proofs.Tiling

/-!
# Offsets that do not fit

The offsets of a scan grow up to the place where it ends: the size of the source, or the place of
the error. So whether all of them fit into positions can be told from this last one. Where it fits,
the checked scan answers what the scan does, and where it does not, the checked scan is refused at
an offset that is too large.

What is proved of a scan without regard to the size of its source holds of the checked scan as well,
in this form. That matters for texts that are made out of others and are longer than these.
-/

namespace Lexis

/-- A checked scan makes positions of offsets up to a last one. If that one fits, the scan has a
result, and if it does not, the scan breaks down at an offset that is too large. -/
structure AnswersUpTo (answer : Except Breakdown (Except ScanError (List Token))) (last : Nat)
    (result : Except ScanError (List Token)) : Prop where
  eq_ok : last < Position.offsetLimit → answer = .ok result
  eq_error : Position.offsetLimit ≤ last →
    ∃ offset, Position.offsetLimit ≤ offset ∧ offset ≤ last ∧
      answer = .error (.offsetTooLarge offset)

namespace AnswersUpTo

variable {answer : Except Breakdown (Except ScanError (List Token))} {last : Nat}
  {result other : Except ScanError (List Token)}

theorem lt_of_eq_ok (answers : AnswersUpTo answer last result) (given : answer = .ok other) :
    last < Position.offsetLimit := by
  by_contra tooLarge
  rcases answers.eq_error (Nat.le_of_not_lt tooLarge) with ⟨offset, -, -, refused⟩
  rw [given] at refused
  contradiction

theorem map (answers : AnswersUpTo answer last result)
    (change : Except ScanError (List Token) → Except ScanError (List Token)) :
    AnswersUpTo (answer.map change) last (change result) where
  eq_ok fits := by
    rw [answers.eq_ok fits]
    rfl
  eq_error tooLarge := by
    rcases answers.eq_error tooLarge with ⟨offset, offsetTooLarge, within, refused⟩
    exact ⟨offset, offsetTooLarge, within, by rw [refused]; rfl⟩

end AnswersUpTo

namespace Scan

variable {scan : Scan} {last : Nat}

theorem answersUpTo_checked (bounded : ∀ offset ∈ scan.offsets, offset ≤ last)
    (reached : 0 < last → last ∈ scan.offsets) : AnswersUpTo scan.checked last scan.result where
  eq_ok fits :=
    checked_of_offsets_lt fun offset member => Nat.lt_of_le_of_lt (bounded offset member) fits
  eq_error tooLarge := by
    have member := reached (Nat.lt_of_lt_of_le (by decide) tooLarge)
    cases found : scan.offsets.find? fun offset => Position.offsetLimit ≤ offset with
    | none =>
        have fits := List.find?_eq_none.mp found last member
        exact absurd tooLarge (by simpa using fits)
    | some offset =>
        have offsetTooLarge : Position.offsetLimit ≤ offset := by
          simpa using List.find?_some found
        exact ⟨offset, offsetTooLarge, bounded offset (List.mem_of_find?_eq_some found),
          by rw [checked, found]⟩

theorem answersUpTo_checked_failure (error : ScanError) :
    AnswersUpTo (checked { tokens := [], failure? := some error }) error.position.offset
      (.error error) := by
  have offsetsAre :
      offsets { tokens := [], failure? := some error } = [error.position.offset] := rfl
  refine answersUpTo_checked ?_ ?_
  · intro offset member
    rw [offsetsAre, List.mem_singleton] at member
    exact Nat.le_of_eq member
  · intro _
    rw [offsetsAre]
    exact List.mem_singleton_self _

theorem result_eq_of_checked_eq_ok {result : Except ScanError (List Token)}
    (answered : scan.checked = .ok result) : scan.result = result := by
  rw [checked] at answered
  split at answered
  · exact Except.ok.inj answered
  · contradiction

end Scan

namespace Source

variable {source : Source}

/-- What the checked scan answers is what the scan does. -/
theorem allTokens_of_checkedTokens {result : Except ScanError (List Token)}
    (answered : source.checkedTokens = .ok result) : source.allTokens = result :=
  Scan.result_eq_of_checked_eq_ok answered

/-- The last position of a scan is where its lexemes end. -/
theorem answersUpTo_checkedTokens (source : Source) :
    AnswersUpTo source.checkedTokens (Lexeme.endOf .start (lex none source.content.toList).1).offset
      source.allTokens := by
  refine Scan.answersUpTo_checked (fun offset => le_of_mem_offsets_scanFrom source) ?_
  intro positive
  have fill := scan_tokens_fill source
  cases final : source.scan.tokens.getLast? with
  | none =>
      rw [List.getLast?_eq_none_iff.mp final] at fill
      exact absurd (show 0 = _ from fill) (Nat.ne_of_lt positive)
  | some token =>
      have stopIs := fill.stop_of_mem_getLast? final
      rw [← stopIs, Scan.offsets, List.mem_append, List.mem_flatMap]
      exact Or.inl ⟨token, List.mem_of_getLast? final, by simp⟩

theorem checkedTokens_of_complete {tokens : List Token} (complete : source.allTokens = .ok tokens) :
    AnswersUpTo source.checkedTokens (Text.size source.content.toList) (.ok tokens) := by
  have consumed := flatMap_text_lex none source.content.toList
  rw [(lex_left_eq_nil_of_allTokens_eq_ok complete).1, List.append_nil] at consumed
  have answers := answersUpTo_checkedTokens source
  rwa [Lexeme.endOf, Cursor.offset_past, consumed, complete, Cursor.start, Nat.zero_add] at answers

theorem checkedTokens_of_failed {error : ScanError} (failed : source.allTokens = .error error) :
    AnswersUpTo source.checkedTokens error.position.offset (.error error) := by
  have answers := answersUpTo_checkedTokens source
  rwa [← (lex_left_ne_nil_of_allTokens_eq_error failed).2, failed] at answers

theorem checkedSignificantTokens_of_complete {tokens : List Token}
    (complete : source.significantTokens = .ok tokens) :
    AnswersUpTo source.checkedSignificantTokens (Text.size source.content.toList) (.ok tokens) := by
  cases all : source.allTokens with
  | error error =>
      rw [significantTokens, all] at complete
      contradiction
  | ok everyToken =>
      rw [significantTokens, all] at complete
      rw [← complete]
      exact (checkedTokens_of_complete all).map _

end Source

end Lexis
