import Lexis.Proofs.Limits
import Lexis.Proofs.Lookback
import Lexis.Proofs.Respacing
import Lexis.Proofs.Shifts

/-!
# Whole lines in front of a text

A text of whole lines that is read to its end can be put in front of any other text, and the two are
read as before. No lexeme goes on over the end of a line but block comments and text blocks, and
those are closed. What has to be ruled out is an opening that was no opening because nothing closed
it: a slash and a star that were read as a sign of division and a sign of multiplication, or three
quotes of which the first two were read as an empty string. Something in the other text could close
these.
-/

namespace Lexis

/-- Two lexemes that follow each other and begin like a comment or a text block that is not closed:
a sign of division in front of a sign of multiplication, or an empty string in front of a quote. -/
def Lexeme.LeavesOpen (lexeme next : Lexeme) : Prop :=
  lexeme.kind = .operator .divide ∧ next.kind = .operator .multiply ∨
    lexeme.kind = .quoted .string ∧ lexeme.text = ['"', '"'] ∧ next.text.head? = some '"'

/-- Two tokens whose lexemes begin like a comment or a text block that is not closed. -/
def Token.LeavesOpen (token next : Token) : Prop :=
  token.lexeme.LeavesOpen next.lexeme

/-- What carries meaning does not end with a line feed. -/
theorem Kind.getLast?_ne_lineFeed {kind : Kind} {text piece : List Char}
    (significant : kind.isTrivia = false) (found : kind.lexeme? text = some piece) :
    piece.getLast? ≠ some '\n' := by
  intro feed
  cases solid : kind.isSolid with
  | true => exact notMem_of_isSolid solid (by decide) found (List.mem_of_getLast? feed)
  | false =>
      cases kind with
      | quoted form =>
          rcases QuotedForm.exists_quote_of_matches (fits_of_lexeme? found).2.1 with quote | quote
          · rw [quote] at feed
            contradiction
          · rw [quote] at feed
            contradiction
      | trivia form => contradiction
      | punctuation form => contradiction
      | number form => contradiction
      | keyword word => contradiction
      | operator sign => contradiction
      | identifier => contradiction

/-- A comment or blank that ends with a line feed is not carried on. -/
theorem Kind.endsBefore_of_lineFeed {kind : Kind} {piece rest : List Char}
    (trivia : kind.isTrivia = true) (found : kind.lexeme? (piece ++ rest) = some piece)
    (feed : piece.getLast? = some '\n') (text : List Char) : kind.EndsBefore piece text := by
  refine ⟨?_, ?_, fun _ => Or.inl feed⟩
  · intro bounded
    rcases exists_trivia_of_isTrivia trivia with ⟨form, rfl⟩
    contradiction
  · rintro rfl
    have spaces := (Trivia.spaces?_append_eq_some_iff.mp found).1.2
    have space := List.all_eq_true.mp spaces _ (List.mem_of_getLast? feed)
    contradiction

namespace Reading

variable {before : List Char} {lexeme next : Lexeme} {later lexemes : List Lexeme}

/-- Where two lexemes leave nothing open, the first of them opens nothing with what stands behind
the others. -/
theorem opensNothing_append (reading : Reading before (lexeme :: next :: later) [])
    (apart : ¬lexeme.LeavesOpen next) (text : List Char) :
    lexeme.OpensNothing ((next :: later).flatMap Lexeme.text)
      ((next :: later).flatMap Lexeme.text ++ text) := by
  have nonempty := reading.tail.text_ne_nil next List.mem_cons_self
  have recognised := reading.tail.lexeme?_eq
  rw [List.flatMap_cons, List.append_assoc]
  cases nextIs : next.text with
  | nil => contradiction
  | cons first behind =>
      rw [nextIs] at recognised
      refine ⟨fun _ slash => slash, ?_, ?_⟩
      · intro isDivide body more parts
        rcases (List.cons.inj parts).1 with rfl
        have rival := Kind.mem_rivals_iff.mpr (Kind.opens_of_lexeme? recognised)
        have rivals : Kind.rivals '*' = [.operator .multiply] := by decide
        rw [rivals, List.mem_singleton] at rival
        exact absurd (Or.inl ⟨isDivide, rival⟩) apart
      · intro isString empty body more parts _
        rcases (List.cons.inj parts).1 with rfl
        exact absurd (Or.inr ⟨isString, empty, by rw [nextIs]; rfl⟩) apart

/-- Whole lines that leave nothing open are read in front of any text as they are read alone. -/
theorem before_text (reading : Reading before lexemes [])
    (closed : lexemes.IsChain fun lexeme next => ¬lexeme.LeavesOpen next)
    (whole : EndsLine (lexemes.flatMap Lexeme.text)) (text : List Char) :
    Reading before lexemes text := by
  induction lexemes generalizing before with
  | nil => exact .stop before text
  | cons lexeme later ih =>
      refine .pick ?_ (ih reading.tail closed.tail whole.of_append)
      have feed := whole.getLast?_eq reading.flatMap_text_ne_nil
      cases trivia : lexeme.kind.isTrivia with
      | true =>
          apply reading.first?_of_isTrivia trivia
          rintro rfl
          rw [List.flatMap_singleton] at feed
          exact Kind.endsBefore_of_lineFeed trivia reading.lexeme?_eq feed text
      | false =>
          cases later with
          | nil =>
              rw [List.flatMap_singleton] at feed
              exact absurd feed (Kind.getLast?_ne_lineFeed trivia reading.lexeme?_eq)
          | cons next others =>
              have apart := (List.isChain_cons_cons.mp closed).1
              have opensNothing := reading.opensNothing_append apart text
              rw [← List.append_nil ((next :: others).flatMap Lexeme.text), List.append_assoc,
                List.nil_append] at opensNothing
              have gap : GapAt (lexeme.text ++ (next :: others).flatMap Lexeme.text) text :=
                Or.inr ⟨'\n', by decide, feed⟩
              cases reading with
              | pick found _ =>
                  exact Lexeme.first?_of_gapAt found trivia (partsWords_nil_right _) gap
                    opensNothing

end Reading

theorem Text.any_lastByte?_of_endsLine {text : List Char} (whole : EndsLine text) :
    (Text.lastByte? text).any mayEndOperand = false := by
  rcases whole.eq_nil_or_append with rfl | ⟨body, rfl⟩
  · rfl
  · exact Text.any_lastByte?_of_closingMark (by decide) List.getLast?_concat

namespace Source

variable {file first : String} {tokens : List Token}

/-- Behind whole lines that leave nothing open, a text is scanned as it is scanned alone, and every
place is moved by the bytes and the line feeds of the lines. -/
theorem scan_append (complete : allTokens { file := file, content := first } = .ok tokens)
    (whole : EndsLine first.toList)
    (closed : tokens.IsChain fun token next => ¬token.LeavesOpen next) (second : String) :
    scan { file := file, content := first ++ second } =
      { tokens := tokens ++ (scan { file := file, content := second }).tokens.map
          (Token.shift (Text.size first.toList) (first.toList.count '\n'))
        failure? := (scan { file := file, content := second }).failure?.map
          (ScanError.shift (Text.size first.toList) (first.toList.count '\n')) } := by
  rcases reading_of_allTokens_eq_ok complete with ⟨reading, fills⟩
  simp only at fills
  have tokensAre : tokens = Lexeme.place file .start (tokens.map Token.lexeme) :=
    Except.ok.inj (complete.symm.trans (allTokens_of_reading reading fills))
  have lexemesClosed : (tokens.map Token.lexeme).IsChain
      fun lexeme next => ¬lexeme.LeavesOpen next := by
    rw [List.isChain_map]
    exact closed
  have wholeLexemes : EndsLine ((tokens.map Token.lexeme).flatMap Lexeme.text) := by
    rwa [← fills]
  have front := reading.before_text lexemesClosed wholeLexemes second.toList
  have endIs : Lexeme.endOf .start (tokens.map Token.lexeme) =
      Cursor.start.shift (Text.size first.toList) (first.toList.count '\n') := by
    rw [Lexeme.endOf, ← fills, Cursor.past_of_endsLine whole]
  rcases secondLexed : lex none second.toList with ⟨later, left⟩
  have lexed : lex none (first ++ second).toList = (tokens.map Token.lexeme ++ later, left) := by
    have read := front.lex_eq
    rw [List.nil_append, ← fills, ← String.toList_append,
      lex_of_noOperand (Text.any_lastByte?_of_endsLine whole), secondLexed] at read
    exact read
  rw [scan, scan, scanFrom_of_lex_eq lexed, scanFrom_of_lex_eq secondLexed, Lexeme.place_append,
    Lexeme.endOf_append, endIs, Lexeme.place_shift, Lexeme.endOf_shift, ← tokensAre]
  simp only [Scan.mk.injEq, true_and]
  split
  · rfl
  · exact congrArg some (ScanError.before_append whole second file left _ _)

theorem allTokens_append (complete : allTokens { file := file, content := first } = .ok tokens)
    (whole : EndsLine first.toList)
    (closed : tokens.IsChain fun token next => ¬token.LeavesOpen next) (second : String) :
    (∀ later, allTokens { file := file, content := second } = .ok later →
      allTokens { file := file, content := first ++ second } =
        .ok (tokens ++ later.map
          (Token.shift (Text.size first.toList) (first.toList.count '\n')))) ∧
    (∀ error, allTokens { file := file, content := second } = .error error →
      allTokens { file := file, content := first ++ second } =
        .error (error.shift (Text.size first.toList) (first.toList.count '\n'))) := by
  simp only [allTokens, Scan.result, scan_append complete whole closed]
  cases (scan { file := file, content := second }).failure? with
  | none =>
      refine ⟨?_, fun error failed => by contradiction⟩
      intro later laterIs
      rw [← Except.ok.inj laterIs]
      rfl
  | some error =>
      refine ⟨fun later laterIs => by contradiction, ?_⟩
      intro other otherIs
      rw [← Except.error.inj otherIs]
      rfl

/-- Whole lines that leave nothing open can be put in front of any text, as far as positions reach.
Where the text is scanned to its end, its tokens follow those of the lines; where it is not, the
error is the same; and every place of the text is moved by the bytes and the line feeds of the
lines. -/
theorem checkedTokens_append
    (complete : checkedTokens { file := file, content := first } = .ok (.ok tokens))
    (whole : EndsLine first.toList)
    (closed : tokens.IsChain fun token next => ¬token.LeavesOpen next) (second : String) :
    (∀ later, checkedTokens { file := file, content := second } = .ok (.ok later) →
      AnswersUpTo (checkedTokens { file := file, content := first ++ second })
        (Text.size first.toList + Text.size second.toList)
        (.ok (tokens ++ later.map
          (Token.shift (Text.size first.toList) (first.toList.count '\n'))))) ∧
    (∀ error, checkedTokens { file := file, content := second } = .ok (.error error) →
      AnswersUpTo (checkedTokens { file := file, content := first ++ second })
        (error.position.offset + Text.size first.toList)
        (.error (error.shift (Text.size first.toList) (first.toList.count '\n')))) := by
  rcases allTokens_append (allTokens_of_checkedTokens complete) whole closed second with
    ⟨ofComplete, ofFailed⟩
  constructor
  · intro later laterIs
    have answers := checkedTokens_of_complete
      (ofComplete later (allTokens_of_checkedTokens laterIs))
    rwa [String.toList_append, Text.size_append] at answers
  · intro error errorIs
    exact checkedTokens_of_failed (ofFailed error (allTokens_of_checkedTokens errorIs))

/-- A sign of division at the end of a line opens no comment with the star on the next one. -/
theorem checkedTokens_append_of_slash_and_star :
    let first := "\"\\\"\" /* \n */ /\n"
    let tokens := Lexeme.place "s" .start
      [⟨.quoted .string, ['"', '\\', '"', '"']⟩, ⟨.trivia .spaces, [' ']⟩,
        ⟨.trivia .blockComment, ['/', '*', ' ', '\n', ' ', '*', '/']⟩, ⟨.trivia .spaces, [' ']⟩,
        ⟨.operator .divide, ['/']⟩, ⟨.trivia .newline, ['\n']⟩]
    checkedTokens { file := "s", content := first } = .ok (.ok tokens) ∧ EndsLine first.toList ∧
      (tokens.IsChain fun token next => ¬token.LeavesOpen next) ∧
      checkedTokens { file := "s", content := "* @*/" } =
        .ok (.error ⟨⟨2, "s"⟩, 1, 2, "@", "* @*/"⟩) ∧
      checkedTokens { file := "s", content := first ++ "* @*/" } =
        .ok (.error ⟨⟨17, "s"⟩, 3, 2, "@", "* @*/"⟩) := by
  intro first tokens
  have complete : checkedTokens { file := "s", content := first } = .ok (.ok tokens) := by
    decide +kernel
  have whole : EndsLine first.toList := by
    intro last member
    have feed : first.toList.getLast? = some '\n' := by decide +kernel
    rw [feed] at member
    exact (Option.some.inj member).symm
  have closed : tokens.IsChain fun token next => ¬token.LeavesOpen next := by
    simp [tokens, Lexeme.place, Lexeme.token, Token.LeavesOpen, Lexeme.LeavesOpen, Token.lexeme]
  have fails : checkedTokens { file := "s", content := "* @*/" } =
      .ok (.error ⟨⟨2, "s"⟩, 1, 2, "@", "* @*/"⟩) := by decide +kernel
  have failsBehind := ((checkedTokens_append complete whole closed _).2 _ fails).eq_ok
    (by decide +kernel)
  have moved : ScanError.shift (Text.size first.toList) (first.toList.count '\n')
      ⟨⟨2, "s"⟩, 1, 2, "@", "* @*/"⟩ = ⟨⟨17, "s"⟩, 3, 2, "@", "* @*/"⟩ := by decide +kernel
  rw [moved] at failsBehind
  exact ⟨complete, whole, closed, fails, failsBehind⟩

end Source

end Lexis
