import Lexis.Proofs.Readings
import Lexis.Session

/-!
# Scans that are resumed

A scanner that is moved ahead by hand may stop inside lexemes and even inside characters on its way.
Nothing of that way is left in its state: the cursor is the one behind all bytes passed, however
they were cut into stretches, and the tokens it has gathered are those that were added. The byte
that a scan looks back at is read off the source. So once the scanner stands at a place that the
scan from the start comes to as well, the rest of that scan is what it finds.
-/

namespace Lexis

/-- The token that an action adds to a scanner. -/
def Action.pushed? : Action → Option Token
  | .push token => some token
  | _ => none

namespace Scanner

/-- A scanner has passed some bytes of a source and gathered some tokens on the way. -/
structure OnCourse (scanner : Scanner) (source : Source) (pushed : List Token) : Prop where
  source_eq : scanner.source = source
  gathered_eq : scanner.gathered = pushed
  cursor_eq : scanner.cursor =
    Cursor.start.passing ((Text.bytes source.content.toList).take scanner.cursor.offset)

section OnCourse

variable {scanner moved : Scanner} {source : Source} {pushed : List Token}

theorem onCourse_ofSource (source : Source) : (ofSource source).OnCourse source [] :=
  ⟨rfl, rfl, rfl⟩

/-- Two stretches are passed like the stretch that they make up. -/
theorem OnCourse.advance (onCourse : scanner.OnCourse source pushed) {count : Nat}
    (advanced : scanner.advance count = .ok moved) : moved.OnCourse source pushed := by
  rcases onCourse with ⟨rfl, rfl, cursorIs⟩
  simp only [Scanner.advance] at advanced
  split at advanced
  next inRange =>
      rcases Except.ok.inj advanced with rfl
      have passedLength : (((Text.bytes scanner.source.content.toList).drop
          scanner.cursor.offset).take count).length = count := by
        rw [List.length_take, List.length_drop]
        omega
      refine ⟨rfl, rfl, ?_⟩
      simp only [Cursor.offset_passing, passedLength]
      rw [List.take_add, Cursor.passing_append, ← cursorIs]
  · contradiction

theorem OnCourse.push (onCourse : scanner.OnCourse source pushed) (token : Token) :
    (scanner.push token).OnCourse source (pushed ++ [token]) := by
  rcases onCourse with ⟨rfl, rfl, cursorIs⟩
  exact ⟨rfl, rfl, cursorIs⟩

/-- The cursor at a place between two texts stands behind the first one. -/
theorem OnCourse.cursor_eq_past (onCourse : scanner.OnCourse source pushed)
    {before rest : List Char} (parts : source.content.toList = before ++ rest)
    (placed : Text.size before = scanner.cursor.offset) :
    scanner.cursor = Cursor.start.past before := by
  rw [onCourse.cursor_eq, parts, Text.bytes_append, ← placed,
    List.take_left' (Text.length_bytes before), Cursor.past]

end OnCourse

end Scanner

namespace Session

variable {session : Session} {source : Source} {pushed : List Token}

/-- An action other than going back keeps the scanner of a session on course. -/
theorem onCourse_perform (onCourse : session.current.OnCourse source pushed) {action : Action}
    (notRestore : action ≠ .restore) :
    (session.perform action).1.current.OnCourse source (pushed ++ action.pushed?.toList) := by
  cases action with
  | advance count =>
      rw [show Action.pushed? (.advance count) = none from rfl, Option.toList_none, List.append_nil]
      cases advanced : session.current.advance count with
      | ok moved => simpa [perform, advanced] using onCourse.advance advanced
      | error fault => simpa [perform, advanced] using onCourse
  | push token => exact onCourse.push token
  | save =>
      rw [show Action.pushed? .save = none from rfl, Option.toList_none, List.append_nil]
      exact onCourse
  | restore => contradiction
  | run =>
      rw [show Action.pushed? .run = none from rfl, Option.toList_none, List.append_nil]
      cases result : session.current.run with
      | ok scanned => simpa [perform, result] using onCourse
      | error fault => simpa [perform, result] using onCourse

theorem onCourse_performAll (onCourse : session.current.OnCourse source pushed)
    {actions : List Action} (noRestore : .restore ∉ actions) :
    (session.performAll actions).1.current.OnCourse source
      (pushed ++ actions.filterMap Action.pushed?) := by
  induction actions generalizing session pushed with
  | nil => simpa [performAll] using onCourse
  | cons action later ih =>
      simp only [List.mem_cons, not_or] at noRestore
      have next := onCourse_perform onCourse (Ne.symm noRestore.1)
      have final := ih next noRestore.2
      rw [List.append_assoc] at final
      have pushedAll : action.pushed?.toList ++ later.filterMap Action.pushed? =
          (action :: later).filterMap Action.pushed? := by
        cases adds : action.pushed? <;> simp [adds]
      rwa [pushedAll] at final

end Session

namespace Scanner

/-- A scanner on course at a place that the scan of the source comes to finds what that scan finds
from there on. -/
theorem OnCourse.run_eq {scanner : Scanner} {source : Source} {pushed : List Token}
    (onCourse : scanner.OnCourse source pushed) (reached : source.Reaches scanner.cursor.offset) :
    scanner.run = .ok (source.allTokens.map fun tokens =>
      pushed ++ tokens.filter fun token => scanner.cursor.offset ≤ token.start) := by
  rcases reached.exists_reading with ⟨earlier, later, left, lexed, cut, front, -⟩
  rcases cutAt_eq_ok_iff.mp cut with ⟨parts, offsetIs⟩
  have cursorIs : scanner.cursor = Lexeme.endOf .start earlier :=
    onCourse.cursor_eq_past parts offsetIs
  -- the byte that the resumed scan looks back at is the one that the whole scan left there
  have laterLexed : lex (Text.lastByte? (earlier.flatMap Lexeme.text))
      (later.flatMap Lexeme.text ++ left) = (later, left) := by
    have whole := front.lex_eq
    rw [List.nil_append, ← parts] at whole
    rcases Prod.mk.inj (lexed.symm.trans whole) with ⟨laterIs, leftIs⟩
    exact Prod.ext (List.append_cancel_left laterIs).symm leftIs.symm
  have filtered : (Lexeme.place source.file .start (earlier ++ later)).filter
      (fun token => scanner.cursor.offset ≤ token.start) =
      Lexeme.place source.file scanner.cursor later := by
    rw [cursorIs]
    exact Lexeme.filter_place_behind front.text_ne_nil
  rw [run, onCourse.source_eq, cut, onCourse.gathered_eq, Source.allTokens, Source.scan,
    Source.scanFrom_of_lex_eq lexed]
  simp only [Except.map, Source.scanFrom_of_lex_eq laterLexed, Lexeme.endOf_append, ← cursorIs]
  rcases Decidable.em (left = []) with rfl | goesOn
  · simp [Scan.result, filtered]
  · simp [Scan.result, goesOn]

/-- A scanner that is moved ahead and given tokens in any order, and comes to a place that the scan
of its source comes to, finds the tokens of that scan that start there or later, behind the tokens
it was given, or the error at which that scan fails. -/
theorem run_of_performAll {source : Source} {actions : List Action} {scanner : Scanner}
    (noRestore : .restore ∉ actions)
    (driven : ((Session.ofSource source).performAll actions).1.current = scanner)
    (reached : source.Reaches scanner.cursor.offset) :
    scanner.run = .ok (source.allTokens.map fun tokens =>
      actions.filterMap Action.pushed? ++
        tokens.filter fun token => scanner.cursor.offset ≤ token.start) := by
  have started : (Session.ofSource source).current.OnCourse source [] := onCourse_ofSource source
  have onCourse := Session.onCourse_performAll started noRestore
  rw [List.nil_append, driven] at onCourse
  exact onCourse.run_eq reached

/-- A scanner that stops inside the accented letter of `/*é*/x` still finds the word behind the
comment. -/
theorem run_of_performAll_through_letter :
    let source : Source := { file := "s", content := "/*é*/x" }
    let mark : Token :=
      { kind := .identifier, value := "m", span := ⟨⟨0, "t"⟩, ⟨1, "t"⟩⟩, line := 1, column := 0 }
    let actions : List Action := [.advance 3, .push mark, .advance 3]
    let scanner : Scanner := { source := source, cursor := ⟨6, 1, 0⟩, gathered := [mark] }
    Action.restore ∉ actions ∧
      ((Session.ofSource source).performAll actions).1.current = scanner ∧
      source.Reaches 6 ∧
      scanner.run = .ok (source.allTokens.map fun tokens =>
        [mark] ++ tokens.filter fun token => 6 ≤ token.start) := by
  intro source mark actions scanner
  have noRestore : Action.restore ∉ actions := by decide +kernel
  have driven : ((Session.ofSource source).performAll actions).1.current = scanner := by
    decide +kernel
  have found : { kind := .identifier, value := "x", span := ⟨⟨6, "s"⟩, ⟨7, "s"⟩⟩, line := 1,
                 column := 6 } ∈ source.scan.tokens := by decide +kernel
  have reached : source.Reaches 6 := .tokenStart found
  exact ⟨noRestore, driven, reached, run_of_performAll noRestore driven reached⟩

end Scanner

end Lexis
