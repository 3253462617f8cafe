import Lexis.Lexeme.Word

/-!
# Numbers

A number ends where no word character follows, so its last part is always a whole word. The forms
with a single part accept the word itself; a decimal fraction is two words of digits around a point;
scientific notation reads its sign, digits and point first and ends with the word of its exponent.
-/

namespace Lexis.NumberForm

def isOctalDigit (char : Char) : Bool :=
  '0' ≤ char && char ≤ '7'

def isHexDigit (char : Char) : Bool :=
  char.isDigit || 'a' ≤ char && char ≤ 'f' || 'A' ≤ char && char ≤ 'F'

def isBinaryDigit (char : Char) : Bool :=
  char == '0' || char == '1'

/-- At least one digit, and digits only. -/
def isNumeral (text : List Char) : Bool :=
  text != [] && text.all Char.isDigit

def isShortNumeral (most : Nat) (text : List Char) : Bool :=
  isNumeral text && text.length ≤ most

def isOctal : List Char → Bool
  | '0' :: later => later != [] && later.all isOctalDigit
  | _ => false

def isHex : List Char → Bool
  | '0' :: 'x' :: later | '0' :: 'X' :: later => later != [] && later.all isHexDigit
  | _ => false

def isBinary : List Char → Bool
  | '0' :: 'b' :: later | '0' :: 'B' :: later => later != [] && later.all isBinaryDigit
  | _ => false

/-- The greatest number of digits of an integer, and of a decimal fraction before the point. -/
def wholeLimit : Nat := 9

/-- The greatest number of digits after the point of a decimal fraction in the short form. -/
def floatLimit : Nat := 16

/-- The greatest number of digits after the point of a decimal fraction in the long form. -/
def doubleLimit : Nat := 32

/-- The decimal fraction at the start of a text, with at most `limit` digits after the point. -/
def decimal? (limit : Nat) (text : List Char) : Option (List Char) :=
  let whole := word text
  match text.drop whole.length with
  | '.' :: later =>
      if isShortNumeral wholeLimit whole && isShortNumeral limit (word later) then
        some (whole ++ '.' :: word later)
      else
        none
  | _ => none

def sign : List Char → List Char
  | '+' :: _ => ['+']
  | '-' :: _ => ['-']
  | _ => []

def digits (text : List Char) : List Char :=
  text.takeWhile Char.isDigit

/-- The point at the start of a text with the digits behind it, if there are any. -/
def fraction : List Char → List Char
  | '.' :: later => if digits later = [] then [] else '.' :: digits later
  | _ => []

/-- The exponent at the start of a text: the letter `e` in either case, perhaps a sign, and a word
of digits. -/
def exponent? : List Char → Option (List Char)
  | letter :: later =>
      let signed := sign later
      let power := word (later.drop signed.length)
      if (letter = 'e' ∨ letter = 'E') ∧ isNumeral power then
        some (letter :: signed ++ power)
      else
        none
  | [] => none

/-- The number in scientific notation at the start of a text: perhaps a sign, digits, perhaps a
point and digits, and an exponent. -/
def scientific? (text : List Char) : Option (List Char) :=
  let signed := sign text
  let afterSign := text.drop signed.length
  let whole := digits afterSign
  let afterWhole := afterSign.drop whole.length
  let part := fraction afterWhole
  if whole = [] then
    none
  else
    (exponent? (afterWhole.drop part.length)).map fun exponent =>
      signed ++ whole ++ part ++ exponent

def lexeme? (form : NumberForm) (text : List Char) : Option (List Char) :=
  match form with
  | .scientific => scientific? text
  | .octal => wordWhere? isOctal text
  | .float => decimal? floatLimit text
  | .double => decimal? doubleLimit text
  | .int => wordWhere? (isShortNumeral wholeLimit) text
  | .hex => wordWhere? isHex text
  | .binary => wordWhere? isBinary text

theorem decimal?_starts {limit : Nat} {text piece : List Char}
    (found : decimal? limit text = some piece) : Starts piece text := by
  simp only [decimal?] at found
  split at found
  next later afterWhole =>
      simp only [Option.ite_none_right_eq_some, Option.some.injEq] at found
      rcases found with ⟨-, rfl⟩
      have wholePart : word text ++ '.' :: later = text := by
        rw [← afterWhole]
        exact List.prefix_iff_eq_append.mp (word_isPrefix text)
      rcases word_isPrefix later with ⟨rest, fractionPart⟩
      refine ⟨by simp, rest, ?_⟩
      rw [List.append_assoc, List.cons_append, fractionPart, wholePart]
  · contradiction

theorem sign_isPrefix (text : List Char) : sign text <+: text := by
  unfold sign
  split <;> simp

theorem digits_isPrefix (text : List Char) : digits text <+: text :=
  List.takeWhile_prefix _

theorem fraction_isPrefix (text : List Char) : fraction text <+: text := by
  unfold fraction
  split
  next later =>
      split
      · exact List.nil_prefix
      · simpa using digits_isPrefix later
  · exact List.nil_prefix

theorem exponent?_isPrefix {text piece : List Char} (found : exponent? text = some piece) :
    piece <+: text := by
  cases text with
  | nil => simp [exponent?] at found
  | cons letter later =>
      simp only [exponent?, Option.ite_none_right_eq_some, Option.some.injEq] at found
      rcases found with ⟨-, rfl⟩
      have signPart := List.prefix_iff_eq_append.mp (sign_isPrefix later)
      rcases word_isPrefix (later.drop (sign later).length) with ⟨rest, powerPart⟩
      refine ⟨rest, ?_⟩
      rw [List.cons_append, List.cons_append, List.append_assoc, powerPart, signPart]

theorem scientific?_starts {text piece : List Char} (found : scientific? text = some piece) :
    Starts piece text := by
  simp only [scientific?, Option.ite_none_left_eq_some, Option.map_eq_some_iff] at found
  rcases found with ⟨nonempty, exponent, exponentFound, rfl⟩
  refine ⟨by simp [nonempty], ?_⟩
  have signPart := List.prefix_iff_eq_append.mp (sign_isPrefix text)
  have wholePart := List.prefix_iff_eq_append.mp (digits_isPrefix (text.drop (sign text).length))
  have fractionPart := List.prefix_iff_eq_append.mp
    (fraction_isPrefix ((text.drop (sign text).length).drop
      (digits (text.drop (sign text).length)).length))
  rcases exponent?_isPrefix exponentFound with ⟨rest, exponentPart⟩
  refine ⟨rest, ?_⟩
  simp only [List.append_assoc]
  rw [exponentPart, fractionPart, wholePart, signPart]

theorem lexeme?_starts {form : NumberForm} {text piece : List Char}
    (found : form.lexeme? text = some piece) : Starts piece text := by
  cases form with
  | scientific => exact scientific?_starts found
  | octal => exact wordWhere?_starts rfl found
  | float => exact decimal?_starts found
  | double => exact decimal?_starts found
  | int => exact wordWhere?_starts rfl found
  | hex => exact wordWhere?_starts rfl found
  | binary => exact wordWhere?_starts rfl found

end Lexis.NumberForm
