import Lexis.Kind
import Lexis.Lexeme.Piece

/-!
# Quoted literals

A backslash in a string or a text block takes the next character along, so an escaped quote does not
close the literal. A string stays on one line, and not even a backslash takes a line feed along; a
text block may span lines and ends with the first three quotes in a row. A character literal holds
one character or one of two escapes.
-/

namespace Lexis.QuotedForm

/-- The rest of a string, its closing quote included. -/
def throughQuote? : List Char → Option (List Char)
  | [] => none
  | '"' :: _ => some ['"']
  | '\n' :: _ => none
  | ['\\'] => none
  | '\\' :: '\n' :: _ => none
  | '\\' :: escaped :: later => (throughQuote? later).map fun body => '\\' :: escaped :: body
  | first :: later => (throughQuote? later).map (first :: ·)

/-- The rest of a text block, its three closing quotes included. -/
def throughTripleQuote? : List Char → Option (List Char)
  | [] => none
  | '"' :: '"' :: '"' :: _ => some ['"', '"', '"']
  | ['\\'] => none
  | '\\' :: escaped :: later =>
      (throughTripleQuote? later).map fun body => '\\' :: escaped :: body
  | first :: later => (throughTripleQuote? later).map (first :: ·)

def textBlock? : List Char → Option (List Char)
  | '"' :: '"' :: '"' :: later =>
      (throughTripleQuote? later).map fun body => '"' :: '"' :: '"' :: body
  | _ => none

def string? : List Char → Option (List Char)
  | '"' :: later => (throughQuote? later).map ('"' :: ·)
  | _ => none

/-- The character literal at the start of a text: between single quotes, an escaped line feed or
tab, or one character other than a single quote, a backslash and a line feed. -/
def char? : List Char → Option (List Char)
  | '\'' :: '\\' :: letter :: '\'' :: _ =>
      if letter = 'n' ∨ letter = 't' then some ['\'', '\\', letter, '\''] else none
  | '\'' :: content :: '\'' :: _ =>
      if content = '\'' ∨ content = '\\' ∨ content = '\n' then none else some ['\'', content, '\'']
  | _ => none

def lexeme? (form : QuotedForm) (text : List Char) : Option (List Char) :=
  match form with
  | .textBlock => textBlock? text
  | .string => string? text
  | .char => char? text

theorem throughQuote?_isPrefix {text piece : List Char} (found : throughQuote? text = some piece) :
    piece <+: text := by
  fun_induction throughQuote? text generalizing piece with
  | case1 => contradiction
  | case2 later =>
      rcases Option.some.inj found with rfl
      exact ⟨later, rfl⟩
  | case3 => contradiction
  | case4 => contradiction
  | case5 => contradiction
  | case6 escaped later _ ih =>
      rcases Option.map_eq_some_iff.mp found with ⟨body, bodyFound, rfl⟩
      simpa using ih bodyFound
  | case7 first later _ _ _ _ _ ih =>
      rcases Option.map_eq_some_iff.mp found with ⟨body, bodyFound, rfl⟩
      simpa using ih bodyFound

theorem throughTripleQuote?_isPrefix {text piece : List Char}
    (found : throughTripleQuote? text = some piece) : piece <+: text := by
  fun_induction throughTripleQuote? text generalizing piece with
  | case1 => contradiction
  | case2 later =>
      rcases Option.some.inj found with rfl
      exact ⟨later, rfl⟩
  | case3 => contradiction
  | case4 escaped later ih =>
      rcases Option.map_eq_some_iff.mp found with ⟨body, bodyFound, rfl⟩
      simpa using ih bodyFound
  | case5 first later _ _ _ ih =>
      rcases Option.map_eq_some_iff.mp found with ⟨body, bodyFound, rfl⟩
      simpa using ih bodyFound

theorem textBlock?_starts {text piece : List Char} (found : textBlock? text = some piece) :
    Starts piece text := by
  unfold textBlock? at found
  split at found
  next later =>
      rcases Option.map_eq_some_iff.mp found with ⟨body, bodyFound, rfl⟩
      exact ⟨List.cons_ne_nil _ _, by simpa using throughTripleQuote?_isPrefix bodyFound⟩
  · contradiction

theorem string?_starts {text piece : List Char} (found : string? text = some piece) :
    Starts piece text := by
  unfold string? at found
  split at found
  next later =>
      rcases Option.map_eq_some_iff.mp found with ⟨body, bodyFound, rfl⟩
      exact ⟨List.cons_ne_nil _ _, by simpa using throughQuote?_isPrefix bodyFound⟩
  · contradiction

theorem char?_starts {text piece : List Char} (found : char? text = some piece) :
    Starts piece text := by
  unfold char? at found
  split at found
  next letter later =>
      simp only [Option.ite_none_right_eq_some, Option.some.injEq] at found
      rcases found with ⟨-, rfl⟩
      exact ⟨List.cons_ne_nil _ _, later, rfl⟩
  next content later _ =>
      simp only [Option.ite_none_left_eq_some, Option.some.injEq] at found
      rcases found with ⟨-, rfl⟩
      exact ⟨List.cons_ne_nil _ _, later, rfl⟩
  · contradiction

theorem lexeme?_starts {form : QuotedForm} {text piece : List Char}
    (found : form.lexeme? text = some piece) : Starts piece text := by
  cases form with
  | textBlock => exact textBlock?_starts found
  | string => exact string?_starts found
  | char => exact char?_starts found

end Lexis.QuotedForm
