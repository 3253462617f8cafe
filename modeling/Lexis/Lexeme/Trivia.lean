import Lexis.Kind
import Lexis.Lexeme.Piece
import Lexis.Line

/-!
# Comments and blanks

A block comment ends with the first `*/` after its opening, so comments do not nest. A line comment
takes the rest of its line with the line feed. Line feeds and tabs are lexemes one by one, spaces
are one lexeme as long as they follow each other.
-/

namespace Lexis.Trivia

/-- A text up to and including the first `*/` in it. -/
def throughCommentEnd? : List Char → Option (List Char)
  | '*' :: '/' :: _ => some ['*', '/']
  | first :: later => (throughCommentEnd? later).map (first :: ·)
  | [] => none

def blockComment? : List Char → Option (List Char)
  | '/' :: '*' :: later => (throughCommentEnd? later).map fun body => '/' :: '*' :: body
  | _ => none

def lineComment? : List Char → Option (List Char)
  | '/' :: '/' :: later => some ('/' :: '/' :: Text.firstLine later)
  | _ => none

/-- The line feed at the start of a text, with the carriage return before it if there is one. -/
def newline? : List Char → Option (List Char)
  | '\n' :: _ => some ['\n']
  | '\r' :: '\n' :: _ => some ['\r', '\n']
  | _ => none

def spaces? (text : List Char) : Option (List Char) :=
  let run := text.takeWhile (· == ' ')
  if run = [] then none else some run

def lexeme? (form : Trivia) (text : List Char) : Option (List Char) :=
  match form with
  | .blockComment => blockComment? text
  | .lineComment => lineComment? text
  | .newline => newline? text
  | .tab => spelled? ['\t'] text
  | .spaces => spaces? text

theorem throughCommentEnd?_isPrefix {text piece : List Char}
    (found : throughCommentEnd? text = some piece) : piece <+: text := by
  fun_induction throughCommentEnd? text generalizing piece with
  | case1 later =>
      rcases Option.some.inj found with rfl
      exact ⟨later, rfl⟩
  | case2 first later _ ih =>
      rcases Option.map_eq_some_iff.mp found with ⟨body, bodyFound, rfl⟩
      exact List.cons_prefix_cons.mpr ⟨rfl, ih bodyFound⟩
  | case3 => contradiction

theorem blockComment?_starts {text piece : List Char} (found : blockComment? text = some piece) :
    Starts piece text := by
  unfold blockComment? at found
  split at found
  next later =>
      rcases Option.map_eq_some_iff.mp found with ⟨body, bodyFound, rfl⟩
      exact ⟨List.cons_ne_nil _ _, by simpa using throughCommentEnd?_isPrefix bodyFound⟩
  · contradiction

theorem lineComment?_starts {text piece : List Char} (found : lineComment? text = some piece) :
    Starts piece text := by
  unfold lineComment? at found
  split at found
  next later =>
      rcases Option.some.inj found with rfl
      exact ⟨List.cons_ne_nil _ _, by simpa using Text.firstLine_isPrefix later⟩
  · contradiction

theorem newline?_starts {text piece : List Char} (found : newline? text = some piece) :
    Starts piece text := by
  unfold newline? at found
  split at found
  next later =>
      rcases Option.some.inj found with rfl
      exact ⟨List.cons_ne_nil _ _, later, rfl⟩
  next later =>
      rcases Option.some.inj found with rfl
      exact ⟨List.cons_ne_nil _ _, later, rfl⟩
  · contradiction

theorem spaces?_starts {text piece : List Char} (found : spaces? text = some piece) :
    Starts piece text := by
  simp only [spaces?, Option.ite_none_left_eq_some, Option.some.injEq] at found
  rcases found with ⟨nonempty, rfl⟩
  exact ⟨nonempty, List.takeWhile_prefix _⟩

theorem lexeme?_starts {form : Trivia} {text piece : List Char}
    (found : form.lexeme? text = some piece) : Starts piece text := by
  cases form with
  | blockComment => exact blockComment?_starts found
  | lineComment => exact lineComment?_starts found
  | newline => exact newline?_starts found
  | tab => exact spelled?_starts (List.cons_ne_nil _ _) found
  | spaces => exact spaces?_starts found

end Lexis.Trivia
