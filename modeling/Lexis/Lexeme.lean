import Lexis.Lexeme.Number
import Lexis.Lexeme.Quoted
import Lexis.Lexeme.Symbol
import Lexis.Lexeme.Trivia
import Lexis.Text.Utf8

/-!
# Lexemes

A lexeme is a piece of a source with its kind. At each place the kinds are tried in order of
priority, and the only thing they know about the text behind them is its last byte: a word does not
start in the middle of a word, and a sign after an operand is an operator and not part of a number.

`lex` reads a text lexeme by lexeme until it ends or no kind fits.
-/

namespace Lexis

structure Lexeme where
  kind : Kind
  text : List Char
  deriving DecidableEq, Repr

/-- A byte that ends an operand: a word byte or a closing bracket. -/
def mayEndOperand (byte : UInt8) : Bool :=
  isWordByte byte || byte == ')'.toUInt8 || byte == ']'.toUInt8

namespace Kind

/-- The lexeme of a kind at the start of a text, whatever stands before it. -/
def lexeme? (kind : Kind) (text : List Char) : Option (List Char) :=
  match kind with
  | .trivia form => form.lexeme? text
  | .punctuation form => form.lexeme? text
  | .number form => form.lexeme? text
  | .quoted form => form.lexeme? text
  | .keyword word => word.lexeme? text
  | .operator sign => sign.lexeme? text
  | .identifier => identifier? text

/-- A lexeme of a kind may start after a given byte. A word-bounded kind never starts right after a
word byte, and scientific notation never starts with a sign right after the end of an operand. -/
def fitsAfter (kind : Kind) (previous : Option UInt8) (text : List Char) : Bool :=
  !(kind.isWordBounded && previous.any isWordByte) &&
    !(kind = .number .scientific && previous.any mayEndOperand && NumberForm.sign text != [])

def lexemeAfter? (kind : Kind) (previous : Option UInt8) (text : List Char) : Option (List Char) :=
  if kind.fitsAfter previous text then kind.lexeme? text else none

theorem lexeme?_starts {kind : Kind} {text piece : List Char}
    (found : kind.lexeme? text = some piece) : Starts piece text := by
  cases kind with
  | trivia form => exact Trivia.lexeme?_starts found
  | punctuation form => exact Punctuation.lexeme?_starts found
  | number form => exact NumberForm.lexeme?_starts found
  | quoted form => exact QuotedForm.lexeme?_starts found
  | keyword word => exact Keyword.lexeme?_starts found
  | operator sign => exact Operator.lexeme?_starts found
  | identifier => exact identifier?_starts found

theorem lexemeAfter?_eq_some_iff {kind : Kind} {previous : Option UInt8} {text piece : List Char} :
    kind.lexemeAfter? previous text = some piece ↔
      kind.fitsAfter previous text = true ∧ kind.lexeme? text = some piece := by
  simp [lexemeAfter?, Option.ite_none_right_eq_some]

theorem lexemeAfter?_starts {kind : Kind} {previous : Option UInt8} {text piece : List Char}
    (found : kind.lexemeAfter? previous text = some piece) : Starts piece text :=
  lexeme?_starts (lexemeAfter?_eq_some_iff.mp found).2

end Kind

namespace Lexeme

/-- The lexeme at the start of a text that follows a given byte: that of the first kind that fits.
-/
def first? (previous : Option UInt8) (text : List Char) : Option Lexeme :=
  Kind.all.findSome? fun kind => (kind.lexemeAfter? previous text).map (⟨kind, ·⟩)

theorem lexemeAfter?_of_first?_eq_some {previous : Option UInt8} {text : List Char}
    {lexeme : Lexeme} (found : first? previous text = some lexeme) :
    lexeme.kind.lexemeAfter? previous text = some lexeme.text := by
  rcases List.exists_of_findSome?_eq_some found with ⟨kind, -, recognised⟩
  rcases Option.map_eq_some_iff.mp recognised with ⟨piece, pieceFound, rfl⟩
  exact pieceFound

theorem first?_starts {previous : Option UInt8} {text : List Char} {lexeme : Lexeme}
    (found : first? previous text = some lexeme) : Starts lexeme.text text :=
  Kind.lexemeAfter?_starts (lexemeAfter?_of_first?_eq_some found)

theorem first?_eq_none_iff {previous : Option UInt8} {text : List Char} :
    first? previous text = none ↔ ∀ kind : Kind, kind.lexemeAfter? previous text = none := by
  simp [first?, List.findSome?_eq_none_iff, Kind.mem_all]

def lastByte? (lexeme : Lexeme) : Option UInt8 :=
  Text.lastByte? lexeme.text

end Lexeme

/-- The lexemes of a text that follows a given byte, and the text that is left where no kind fits;
nothing is left when the whole text is read. -/
def lex (previous : Option UInt8) (text : List Char) : List Lexeme × List Char :=
  match _ : Lexeme.first? previous text with
  | none => ([], text)
  | some lexeme =>
      let (later, left) := lex lexeme.lastByte? (text.drop lexeme.text.length)
      (lexeme :: later, left)
termination_by text.length
decreasing_by exact (Lexeme.first?_starts (by assumption)).length_drop_lt

theorem lex_of_first?_eq_none {previous : Option UInt8} {text : List Char}
    (stuck : Lexeme.first? previous text = none) : lex previous text = ([], text) := by
  rw [lex]
  split
  · rfl
  next lexeme found => simp [stuck] at found

theorem lex_of_first?_eq_some {previous : Option UInt8} {text : List Char} {lexeme : Lexeme}
    (found : Lexeme.first? previous text = some lexeme) :
    lex previous text =
      (lexeme :: (lex lexeme.lastByte? (text.drop lexeme.text.length)).1,
        (lex lexeme.lastByte? (text.drop lexeme.text.length)).2) := by
  rw [lex]
  split
  next stuck => simp [found] at stuck
  next other otherFound =>
      rcases Option.some.inj (found.symm.trans otherFound) with rfl
      rfl

theorem flatten_lex (previous : Option UInt8) (text : List Char) :
    ((lex previous text).1.map Lexeme.text).flatten ++ (lex previous text).2 = text := by
  fun_induction lex previous text with
  | case1 previous text stuck => rfl
  | case2 previous text lexeme found later left equal ih =>
      rw [equal] at ih
      simpa [ih] using (Lexeme.first?_starts found).append_drop

end Lexis
