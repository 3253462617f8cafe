import Lexis.Proofs.Endings
import Lexis.Proofs.Readings

/-!
# Sources that are cut off

A lexeme is picked with the whole rest of the source in view. Cutting the source off behind it could
in principle let another kind win: a number or a word could end where it went on before. It cannot
at a place that the scan comes to, because no word lies across such a place. So a reading is still a
reading when the text behind it is taken away, and the scan of the part of a source in front of such
a place finds the tokens that the scan of the whole source finds there.
-/

namespace Lexis

namespace Reading

variable {before rest : List Char} {lexemes : List Lexeme}

/-- No word lies across the end of a reading. -/
theorem partsWords (reading : Reading before lexemes rest) :
    PartsWords (lexemes.flatMap Lexeme.text) rest := by
  induction reading with
  | stop before rest =>
      intro inWord
      contradiction
  | @pick before rest lexeme later found goesOn ih =>
      cases later with
      | nil =>
          have parts := Lexeme.partsWords_of_first? found
          simpa using parts
      | cons next others =>
          exact ih.append goesOn.flatMap_text_ne_nil

/-- A reading stays one where the text behind it is cut off. -/
theorem cutOff (reading : Reading before lexemes rest) : Reading before lexemes [] := by
  induction reading with
  | stop before rest => exact .stop before []
  | @pick before rest lexeme later found goesOn ih =>
      have whole := (Reading.pick found goesOn).partsWords
      apply Reading.pick ?_ ih
      rw [List.append_nil]
      rw [← List.append_assoc] at found
      exact Lexeme.first?_of_append found (List.prefix_append _ _) whole

end Reading

namespace Source

/-- Where the scan of a source comes to a place, the part of the source in front of that place is
scanned to its end, and its tokens are those of the whole source that start there. -/
theorem allTokens_cutOff {source : Source} {offset : Nat} (reached : source.Reaches offset) :
    ∃ before rest, cutAt source.content offset = .ok (before, rest) ∧
      allTokens { source with content := String.ofList before } =
        .ok (source.scan.tokens.filter fun token => token.start < offset) := by
  rcases reached.exists_reading with ⟨earlier, later, left, lexed, cut, front, placed⟩
  have wholeTokens : source.scan.tokens = Lexeme.place source.file .start (earlier ++ later) := by
    rw [scan, scanFrom_of_lex_eq lexed]
  refine ⟨earlier.flatMap Lexeme.text, later.flatMap Lexeme.text ++ left, cut, ?_⟩
  rw [wholeTokens, ← placed, Lexeme.filter_place_before front.text_ne_nil]
  exact allTokens_of_reading front.cutOff String.toList_ofList

/-- In `s=\"\"\"x` an empty string is found in front of a quote that opens none, although three
quotes stand there as in front of a text block. -/
theorem allTokens_cutOff_of_three_quotes :
    Reaches { file := "s", content := "s=\"\"\"x" } 4 ∧
      ∃ before rest, cutAt "s=\"\"\"x" 4 = .ok (before, rest) ∧
        allTokens { file := "s", content := String.ofList before } =
          .ok ((scan { file := "s", content := "s=\"\"\"x" }).tokens.filter
            fun token => token.start < 4) := by
  have failed : allTokens { file := "s", content := "s=\"\"\"x" } =
      .error { position := ⟨4, "s"⟩, line := 1, column := 4, character := "\"",
               nearby := "s=\"\"\"x" } := by decide +kernel
  exact ⟨.failure failed, allTokens_cutOff (.failure failed)⟩

end Source

end Lexis
