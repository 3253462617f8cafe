import Lexis.Proofs.Rounds
import Mathlib.Data.List.Chain

/-!
# The tokens of a scan tile its source

Every lexeme is a non-empty piece at the start of what is still to be read, so the tokens of a scan
follow each other without a gap from the place where the scan starts to the place where it ends.
Each of them shows the text at its span and has the kind that is recognised at its start. A scan
that does not reach the end of its source stops at a place between two characters at which nothing
is recognised.
-/

namespace Lexis

namespace Token

/-- A token shows the text at its span, and what is recognised at its start is the token. -/
structure StandsIn (content : String) (token : Token) : Prop where
  start_lt_stop : token.start < token.stop
  start_boundary : Text.IsBoundary content.toList token.start
  stop_boundary : Text.IsBoundary content.toList token.stop
  value_eq : sliceAt content token.start token.stop = .ok token.value.toList
  recognised : lexemeAt content token.start = .ok (some (token.kind, token.stop - token.start))

/-- Tokens that follow each other without a gap from one offset of a text to another. -/
def Fill (content : String) : Nat → List Token → Nat → Prop
  | start, [], stop => start = stop
  | start, token :: later, stop =>
      token.start = start ∧ token.StandsIn content ∧ Fill content token.stop later stop

/-- Tokens that make up a whole text. -/
structure Tile (content : String) (tokens : List Token) : Prop where
  join_eq : String.join (tokens.map Token.value) = content
  first_start : ∀ token ∈ tokens.head?, token.start = 0
  last_stop : ∀ token ∈ tokens.getLast?, token.stop = Text.size content.toList
  contiguous : tokens.IsChain fun token next => token.stop = next.start
  standsIn : ∀ token ∈ tokens, token.StandsIn content

section Fill

variable {content : String} {tokens : List Token} {start stop : Nat}

theorem Fill.start_of_mem_head? (fill : Fill content start tokens stop) {token : Token}
    (first : token ∈ tokens.head?) : token.start = start := by
  cases tokens with
  | nil => simp at first
  | cons head tail =>
      simp only [List.head?_cons, Option.mem_some_iff] at first
      subst first
      exact fill.1

theorem Fill.stop_of_mem_getLast? (fill : Fill content start tokens stop) {token : Token}
    (last : token ∈ tokens.getLast?) : token.stop = stop := by
  induction tokens generalizing start with
  | nil => simp at last
  | cons head tail ih =>
      rcases fill with ⟨-, -, tailFills⟩
      cases tail with
      | nil =>
          simp only [List.getLast?_singleton, Option.mem_some_iff] at last
          subst last
          exact tailFills
      | cons next later => exact ih tailFills (by simpa using last)

theorem Fill.isChain (fill : Fill content start tokens stop) :
    tokens.IsChain fun token next => token.stop = next.start := by
  induction tokens generalizing start with
  | nil => exact .nil
  | cons head tail ih =>
      rcases fill with ⟨-, -, tailFills⟩
      cases tail with
      | nil => exact .singleton head
      | cons next later => exact .cons_cons tailFills.1.symm (ih tailFills)

theorem Fill.standsIn_of_mem (fill : Fill content start tokens stop) {token : Token}
    (member : token ∈ tokens) : token.StandsIn content := by
  induction tokens generalizing start with
  | nil => simp at member
  | cons head tail ih =>
      rcases fill with ⟨-, headStands, tailFills⟩
      rcases List.mem_cons.mp member with rfl | later
      · exact headStands
      · exact ih tailFills later

end Fill

end Token

namespace Lexeme

/-- The token of the lexeme at a place between two texts shows what stands there. -/
theorem token_standsIn {content : String} {before rest : List Char} {lexeme : Lexeme}
    (parts : content.toList = before ++ rest)
    (found : first? (Text.lastByte? before) rest = some lexeme) {cursor : Cursor}
    (placed : cursor.offset = Text.size before) (file : String) :
    (lexeme.token file cursor).StandsIn content := by
  have starts := first?_starts found
  rcases starts.2 with ⟨after, restParts⟩
  have pieces : content.toList = before ++ (lexeme.text ++ after) := by
    rw [restParts]
    exact parts
  have nonempty : rest ≠ [] := by
    rw [← restParts]
    simp [starts.1]
  have positive := Text.size_pos starts.1
  refine ⟨?_, ?_, ?_, ?_, ?_⟩
  · simp only [Token.start, Token.stop, token]
    omega
  · exact ⟨before, rest, parts, placed.symm⟩
  · exact ⟨before ++ lexeme.text, after, by simpa using pieces, by simp [Token.stop, token, placed]⟩
  · simpa [Token.start, Token.stop, token, placed] using sliceAt_of_parts pieces
  · simp [Token.start, Token.stop, token, placed, lexemeAt_of_parts parts nonempty, found]

/-- The tokens of the lexemes of a text fill the bytes from its start to where the reading ends. -/
theorem place_lex_fill {content : String} (file : String) {cursor : Cursor}
    {before rest : List Char} (parts : content.toList = before ++ rest)
    (placed : cursor.offset = Text.size before) :
    Token.Fill content cursor.offset
      (place file cursor (lex (Text.lastByte? before) rest).1)
      (endOf cursor (lex (Text.lastByte? before) rest).1).offset := by
  generalize previousIs : Text.lastByte? before = previous
  induction previous, rest using lex.induct generalizing cursor before with
  | case1 previous rest stuck =>
      rw [lex_of_first?_eq_none stuck]
      exact (by simp [endOf] : cursor.offset = (endOf cursor []).offset)
  | case2 previous rest lexeme found later left equal ih =>
      subst previousIs
      have starts := first?_starts found
      have laterParts : content.toList =
          (before ++ lexeme.text) ++ rest.drop lexeme.text.length := by
        rw [List.append_assoc, starts.append_drop]
        exact parts
      have laterPlaced : (cursor.past lexeme.text).offset = Text.size (before ++ lexeme.text) := by
        simp [placed]
      have laterFills := ih laterParts laterPlaced (Text.lastByte?_append starts.1)
      have tokenStop : (lexeme.token file cursor).stop = (cursor.past lexeme.text).offset := by
        simp [Token.stop, token]
      rw [lex_of_first?_eq_some found]
      refine ⟨rfl, token_standsIn parts found placed file, ?_⟩
      rw [tokenStop]
      simpa [endOf, Cursor.past_append] using laterFills

theorem flatMap_value_place (file : String) (cursor : Cursor) (lexemes : List Lexeme) :
    (place file cursor lexemes).flatMap (fun token => token.value.toList) =
      lexemes.flatMap Lexeme.text := by
  induction lexemes generalizing cursor with
  | nil => rfl
  | cons lexeme later ih => simp [place, token, ih]

end Lexeme

/-- Reading ends where nothing is recognised. -/
theorem first?_lex_left (before rest : List Char) :
    Lexeme.first?
      (Text.lastByte? (before ++ (lex (Text.lastByte? before) rest).1.flatMap Lexeme.text))
      (lex (Text.lastByte? before) rest).2 = none := by
  generalize previousIs : Text.lastByte? before = previous
  induction previous, rest using lex.induct generalizing before with
  | case1 previous rest stuck =>
      subst previousIs
      simpa [lex_of_first?_eq_none stuck] using stuck
  | case2 previous rest lexeme found later left equal ih =>
      have starts := Lexeme.first?_starts found
      have laterStuck := ih (before ++ lexeme.text) (Text.lastByte?_append starts.1)
      simpa [lex_of_first?_eq_some found] using laterStuck

theorem flatMap_text_lex (previous : Option UInt8) (rest : List Char) :
    (lex previous rest).1.flatMap Lexeme.text ++ (lex previous rest).2 = rest := by
  rw [List.flatMap_def]
  exact flatten_lex previous rest

namespace Source

variable {source : Source}

theorem scan_tokens_fill (source : Source) :
    Token.Fill source.content 0 source.scan.tokens
      (Lexeme.endOf .start (lex none source.content.toList).1).offset := by
  have parts : source.content.toList = [] ++ source.content.toList := rfl
  have placed : Cursor.start.offset = Text.size [] := rfl
  exact Lexeme.place_lex_fill source.file parts placed

/-- A scan without a failure has read its whole source. -/
theorem lex_left_eq_nil_of_allTokens_eq_ok {tokens : List Token}
    (complete : source.allTokens = .ok tokens) :
    (lex none source.content.toList).2 = [] ∧ source.scan.tokens = tokens := by
  simp only [allTokens, Scan.result, scan, scanFrom] at complete ⊢
  split at complete
  next noFailure =>
      split at noFailure
      next empty => exact ⟨empty, Except.ok.inj complete⟩
      · simp at noFailure
  · simp at complete

theorem lex_left_ne_nil_of_allTokens_eq_error {error : ScanError}
    (failed : source.allTokens = .error error) :
    (lex none source.content.toList).2 ≠ [] ∧
      error.position.offset =
        (Lexeme.endOf .start (lex none source.content.toList).1).offset := by
  simp only [allTokens, Scan.result, scan, scanFrom] at failed
  split at failed
  · simp at failed
  next other failure =>
      split at failure
      · simp at failure
      next nonempty =>
          rw [← Except.error.inj failed, ← Option.some.inj failure]
          exact ⟨nonempty, rfl⟩

theorem tile_of_allTokens_eq_ok {tokens : List Token} (complete : source.allTokens = .ok tokens) :
    Token.Tile source.content tokens := by
  rcases lex_left_eq_nil_of_allTokens_eq_ok complete with ⟨leftEmpty, tokensAre⟩
  have consumed := flatMap_text_lex none source.content.toList
  rw [leftEmpty, List.append_nil] at consumed
  have fill := scan_tokens_fill source
  rw [tokensAre] at fill
  refine ⟨?_, ?_, ?_, fill.isChain, ?_⟩
  · apply String.toList_inj.mp
    rw [String.toList_join, List.flatMap_map, ← tokensAre]
    exact (Lexeme.flatMap_value_place source.file .start _).trans consumed
  · intro token first
    exact fill.start_of_mem_head? first
  · intro token last
    rw [fill.stop_of_mem_getLast? last]
    simp [Lexeme.endOf, consumed, Cursor.start]
  · intro token member
    exact fill.standsIn_of_mem member

theorem stuck_of_allTokens_eq_error {error : ScanError}
    (failed : source.allTokens = .error error) :
    Text.IsBoundary source.content.toList error.position.offset ∧
      error.position.offset < Text.size source.content.toList ∧
      lexemeAt source.content error.position.offset = .ok none := by
  rcases lex_left_ne_nil_of_allTokens_eq_error failed with ⟨nonempty, offsetIs⟩
  have parts := (flatMap_text_lex none source.content.toList).symm
  have stuck : Lexeme.first?
      (Text.lastByte? ((lex none source.content.toList).1.flatMap Lexeme.text))
      (lex none source.content.toList).2 = none :=
    first?_lex_left [] source.content.toList
  have measured : error.position.offset =
      Text.size ((lex none source.content.toList).1.flatMap Lexeme.text) := by
    simp [offsetIs, Lexeme.endOf, Cursor.start]
  have positive := Text.size_pos nonempty
  have total := congrArg Text.size parts
  rw [Text.size_append] at total
  refine ⟨⟨_, _, parts, measured.symm⟩, by omega, ?_⟩
  rw [measured, lexemeAt_of_parts parts nonempty, stuck]
  rfl

/-- A scan of a source whose size fits into a position comes to an end without a breakdown. The
tokens of a complete scan tile the source, and an incomplete one stops where nothing is recognised.
-/
theorem rounds_eq_allTokens_and_tile (source : Source)
    (fits : Text.size source.content.toList < Position.offsetLimit) :
    (Scanner.ofSource source).rounds (Text.size source.content.toList + 1) =
        .ok (.over source.allTokens) ∧
      (∀ tokens, source.allTokens = .ok tokens → Token.Tile source.content tokens) ∧
      ∀ error, source.allTokens = .error error →
        Text.IsBoundary source.content.toList error.position.offset ∧
          error.position.offset < Text.size source.content.toList ∧
          lexemeAt source.content error.position.offset = .ok none := by
  refine ⟨?_, ?_, ?_⟩
  · rw [rounds_eq_checkedTokens, checkedTokens_of_lt fits]
    rfl
  · intro tokens complete
    exact tile_of_allTokens_eq_ok complete
  · intro error failed
    exact stuck_of_allTokens_eq_error failed

theorem rounds_eq_allTokens_and_tile_of_comment_and_sum :
    let source : Source := { file := "sum", content := "/*é*/x+1e5" }
    Text.size source.content.toList < Position.offsetLimit ∧
      (Scanner.ofSource source).rounds 12 = .ok (.over source.allTokens) ∧
      (∀ tokens, source.allTokens = .ok tokens → Token.Tile source.content tokens) ∧
      ∀ error, source.allTokens = .error error →
        Text.IsBoundary source.content.toList error.position.offset ∧
          error.position.offset < Text.size source.content.toList ∧
          lexemeAt source.content error.position.offset = .ok none :=
  ⟨by decide, rounds_eq_allTokens_and_tile { file := "sum", content := "/*é*/x+1e5" } (by decide)⟩

end Source

end Lexis
