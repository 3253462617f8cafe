import Lexis.Proofs.Failures
import Lexis.Proofs.Lookback

/-!
# Lexemes by themselves

A lexeme is picked with a byte in view before it and all the rest of the source behind it. Neither
is needed to find it again: the text of a lexeme by itself is read as that lexeme. Kinds of higher
priority that did not fit where the lexeme stood do not fit its text alone. What they missed behind
the lexeme is not there now, because no word lies across its end. The byte before it keeps back two
sorts of lexemes only. Words and numbers do not start inside a word, but there nothing else starts
with a word character either. A signed number does not start behind an operand, but there the sign
is a lexeme of its own, without the digits that a number needs.
-/

namespace Lexis

namespace Kind

variable {kind other : Kind} {previous : Option UInt8} {text piece whole : List Char}

/-- Where a lexeme is found, the byte before the text keeps back no kind that recognises something
there, but for signed numbers behind an operand. -/
theorem eq_scientific_of_not_fitsAfter (kept : other.fitsAfter previous text = false)
    (recognises : other.lexeme? text = some piece)
    (found : kind.lexemeAfter? previous text = some whole) :
    other = .number .scientific ∧ previous.any mayEndOperand = true ∧
      NumberForm.sign text ≠ [] := by
  simp only [fitsAfter, Bool.and_eq_false_iff, Bool.not_eq_false', Bool.and_eq_true,
    decide_eq_true_eq, bne_iff_ne] at kept
  rcases kept with ⟨bounded, inWord⟩ | ⟨⟨scientific, operand⟩, signed⟩
  · cases text with
    | nil =>
        have starts := lexeme?_starts recognises
        exact absurd (List.prefix_nil.mp starts.2) starts.1
    | cons first later =>
        have notWord : isWordChar first = false := by
          rw [Bool.eq_false_iff]
          intro wordChar
          -- then the lexeme is a word or a number as well
          have foundBounded :=
            isWordBounded_of_mem_rivals wordChar (mem_rivals_of_lexemeAfter? found)
          rw [lexemeAfter?_eq_none_of_inWord foundBounded inWord] at found
          contradiction
        rcases eq_scientific_of_opens bounded (opens_of_lexeme? recognises) notWord with
          ⟨scientific, isSign⟩
        refine ⟨scientific, any_mayEndOperand_of_isWordByte inWord, ?_⟩
        rw [sign_ne_nil_iff]
        rcases isSign with rfl | rfl
        · exact ⟨later, Or.inl rfl⟩
        · exact ⟨later, Or.inr rfl⟩
  · exact ⟨scientific, operand, signed⟩

/-- A kind that the byte before a lexeme keeps back does not recognise anything in the text of that
lexeme. -/
theorem lexeme?_eq_none_of_not_fitsAfter (kept : other.fitsAfter previous text = false)
    (found : kind.lexemeAfter? previous text = some text) : other.lexeme? text = none := by
  rw [Option.eq_none_iff_forall_not_mem]
  intro piece recognises
  rcases eq_scientific_of_not_fitsAfter kept recognises found with ⟨rfl, operand, signed⟩
  have spelled := (lexemeAfter?_eq_some_iff.mp found).2
  rcases eq_operator_of_sign operand signed found with rfl | rfl
  · rcases (spelled?_eq_some_iff.mp spelled).1 with rfl
    contradiction
  · rcases (spelled?_eq_some_iff.mp spelled).1 with rfl
    contradiction

end Kind

/-- A lexeme that is picked between any two texts is picked with nothing around it. -/
theorem Lexeme.first?_alone {previous : Option UInt8} {lexeme : Lexeme} {rest : List Char}
    (found : first? previous (lexeme.text ++ rest) = some lexeme) :
    first? none lexeme.text = some lexeme := by
  have cutOff := first?_of_append found (List.prefix_refl _) (partsWords_of_first? found)
  rcases first?_eq_some_iff.mp cutOff with ⟨recognised, earlierFail⟩
  apply first?_eq_some_iff.mpr
  rw [Kind.lexemeAfter?_of_noOperand rfl]
  refine ⟨(Kind.lexemeAfter?_eq_some_iff.mp recognised).2, ?_⟩
  intro kind before
  rw [Kind.lexemeAfter?_of_noOperand rfl]
  cases allowed : kind.fitsAfter previous lexeme.text with
  | true => rw [← earlierFail kind before, Kind.lexemeAfter?, if_pos allowed]
  | false => exact Kind.lexeme?_eq_none_of_not_fitsAfter allowed recognised

/-- Each lexeme of a reading is a reading by itself. -/
theorem Reading.alone {before rest : List Char} {lexemes : List Lexeme}
    (reading : Reading before lexemes rest) {lexeme : Lexeme} (member : lexeme ∈ lexemes) :
    Reading [] [lexeme] [] := by
  induction reading with
  | stop before rest => contradiction
  | pick found goesOn ih =>
      rcases List.mem_cons.mp member with rfl | later
      · have alone := Lexeme.first?_alone found
        exact .pick (by simpa [Text.lastByte?] using alone) (.stop _ _)
      · exact ih later

namespace Source

/-- The text of a token that a scan finds, whether the scan comes to the end or fails later on, is
scanned as that one token: only its place is another one. -/
theorem allTokens_value {source : Source} {token : Token} (member : token ∈ source.scan.tokens)
    (file : String) :
    allTokens { file := file, content := token.value } =
      .ok [{ token with
        span := { start := ⟨0, file⟩, stop := ⟨Text.size token.value.toList, file⟩ }
        line := 1
        column := 0 }] := by
  rcases Lexeme.exists_parts_of_mem_place member with ⟨earlier, lexeme, later, lexemesAre, rfl⟩
  have reading : Reading [] (lex none source.content.toList).1 _ :=
    reading_lex [] source.content.toList
  rw [lexemesAre] at reading
  have alone := reading.alone (List.mem_append_right earlier List.mem_cons_self)
  rw [allTokens_of_reading alone (by simp [Lexeme.token])]
  simp [Lexeme.place, Lexeme.token, Cursor.start, Cursor.column]

/-- In `a+1e5"""` a sign stands behind an operand, and an empty string in front of a quote at which
the scan fails. -/
theorem allTokens_value_of_sign_and_quotes :
    let source : Source := { file := "s", content := "a+1e5\"\"\"" }
    let sign : Token := ⟨.operator .plus, "+", ⟨⟨1, "s"⟩, ⟨2, "s"⟩⟩, 1, 1⟩
    let quotes : Token := ⟨.quoted .string, "\"\"", ⟨⟨5, "s"⟩, ⟨7, "s"⟩⟩, 1, 5⟩
    sign ∈ source.scan.tokens ∧ quotes ∈ source.scan.tokens ∧
      allTokens { file := "t", content := "+" } =
        .ok [⟨.operator .plus, "+", ⟨⟨0, "t"⟩, ⟨1, "t"⟩⟩, 1, 0⟩] ∧
      allTokens { file := "t", content := "\"\"" } =
        .ok [⟨.quoted .string, "\"\"", ⟨⟨0, "t"⟩, ⟨2, "t"⟩⟩, 1, 0⟩] := by
  intro source sign quotes
  have signFound : sign ∈ source.scan.tokens := by decide +kernel
  have quotesFound : quotes ∈ source.scan.tokens := by decide +kernel
  have signAlone := allTokens_value signFound "t"
  have quotesAlone := allTokens_value quotesFound "t"
  have signSize : Text.size sign.value.toList = 1 := by decide +kernel
  have quotesSize : Text.size quotes.value.toList = 2 := by decide +kernel
  rw [signSize] at signAlone
  rw [quotesSize] at quotesAlone
  exact ⟨signFound, quotesFound, signAlone, quotesAlone⟩

end Source

end Lexis
