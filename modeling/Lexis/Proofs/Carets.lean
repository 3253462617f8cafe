import Lexis.Proofs.Lines

/-!
# The caret under a failure

The line of a failure is shown without its indentation, and the line below it has a caret behind as
many dashes as the place lies bytes behind the indentation. The caret therefore stands under the
character of the failure where each character that is shown before has one byte, and only there: a
wider one moves the caret to the right of the character.
-/

namespace Lexis

namespace Text

end Text

namespace LinePlace

section Illustration

variable {visible : Char} {front back : List Char}

end Illustration

end LinePlace

namespace Source

/-- A failed scan leaves its text cut at the place of the error, in front of the character of the
error. -/
theorem exists_parts_of_error {source : Source} {error : ScanError}
    (failed : source.allTokens = .error error) :
    ∃ before offender behind, source.content.toList = before ++ offender :: behind ∧
      Text.size before = error.position.offset ∧ error.character = String.ofList [offender] ∧
      (Cursor.start.past before).line = error.line := by
  have parts := (flatMap_text_lex none source.content.toList).symm
  rcases error_eq_of_allTokens_eq_error rfl failed with ⟨nonempty, rfl⟩
  rcases List.exists_cons_of_ne_nil nonempty with ⟨offender, behind, leftIs⟩
  rw [leftIs] at parts ⊢
  exact ⟨_, offender, behind, parts, (Lexeme.offset_endOf_start _).symm, rfl, rfl⟩

/-- No kind fits at the place of the error. -/
theorem first?_eq_none_of_error {source : Source} {error : ScanError} {before rest : List Char}
    (failed : source.allTokens = .error error) (parts : source.content.toList = before ++ rest)
    (placed : Text.size before = error.position.offset) (nonempty : rest ≠ []) :
    Lexeme.first? (Text.lastByte? before) rest = none := by
  rcases stuck_of_allTokens_eq_error failed with ⟨-, -, nothing⟩
  rw [← placed, lexemeAt_of_parts parts nonempty, Except.ok.injEq] at nothing
  exact Option.map_eq_none_iff.mp nothing

end Source

end Lexis
