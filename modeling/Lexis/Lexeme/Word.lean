import Lexis.Kind
import Lexis.Lexeme.Piece
import Lexis.Text.Utf8

/-!
# Words

A word character is an ASCII letter, an ASCII digit or an underscore. Word characters stick
together: numbers, reserved words and identifiers are cut only where a word character and something
else meet, so a reserved word or an identifier is always the whole run of word characters at its
place.
-/

namespace Lexis

/-- An ASCII letter, an ASCII digit or an underscore. -/
def isWordChar (char : Char) : Bool :=
  char.isAlphanum || char == '_'

/-- The byte of a word character in UTF-8; every other byte belongs to other characters. -/
def isWordByte (byte : UInt8) : Bool :=
  isWordChar (Char.ofUInt8 byte)

theorem ascii_of_isWordChar {char : Char} (wordChar : isWordChar char = true) :
    char.toNat < 128 := by
  change (decide ('A'.val ≤ char.val ∧ char.val ≤ 'Z'.val) ||
    (decide ('a'.val ≤ char.val) && decide (char.val ≤ 'z'.val)) ||
    (decide ('0'.val ≤ char.val) && decide (char.val ≤ '9'.val)) || char == '_') = true at wordChar
  simp only [Bool.or_eq_true, Bool.and_eq_true, decide_eq_true_eq, beq_iff_eq,
    UInt32.le_iff_toNat_le] at wordChar
  rcases wordChar with ((upper | lower) | digit) | rfl
  · exact Nat.lt_of_le_of_lt upper.2 (by decide)
  · exact Nat.lt_of_le_of_lt lower.2 (by decide)
  · exact Nat.lt_of_le_of_lt digit.2 (by decide)
  · decide

theorem isWordByte_eq_of_toNat_eq {byte : UInt8} {char : Char} (same : char.toNat = byte.toNat) :
    isWordByte byte = isWordChar char := by
  have sameChar : Char.ofUInt8 byte = char := Char.toNat_inj.mp same.symm
  rw [isWordByte, sameChar]

/-- The last byte of a text is a word byte where its last character is a word character. -/
theorem any_isWordByte_lastByte? (text : List Char) :
    (Text.lastByte? text).any isWordByte = text.getLast?.any isWordChar := by
  rw [Text.lastByte?]
  cases text.getLast? with
  | none => rfl
  | some last =>
      by_cases ascii : last.toNat < 128
      · simp only [Option.bind_some, Text.utf8EncodeChar_of_ascii ascii, List.getLast?_singleton,
          Option.any_some]
        apply isWordByte_eq_of_toNat_eq
        rw [UInt8.toNat_ofNat']
        omega
      · have notWord : isWordChar last = false :=
          Bool.eq_false_iff.mpr fun wordChar => ascii (ascii_of_isWordChar wordChar)
        simp only [Option.bind_some, Option.any_some, notWord]
        rw [Option.any_eq_false]
        intro byte found
        refine Bool.eq_false_iff.mpr fun wordByte => ?_
        have byteAscii : byte.toNat < 128 := ascii_of_isWordChar wordByte
        have sameCode := Text.ascii_of_mem_utf8EncodeChar (List.mem_of_getLast? found) byteAscii
        omega

def word (text : List Char) : List Char :=
  text.takeWhile isWordChar

theorem word_isPrefix (text : List Char) : word text <+: text :=
  List.takeWhile_prefix _

/-- The word at the start of a text, if a condition accepts it. -/
def wordWhere? (accepts : List Char → Bool) (text : List Char) : Option (List Char) :=
  if accepts (word text) then some (word text) else none

theorem wordWhere?_eq_some_iff {accepts : List Char → Bool} {text piece : List Char} :
    wordWhere? accepts text = some piece ↔ accepts piece = true ∧ word text = piece := by
  simp only [wordWhere?, Option.ite_none_right_eq_some, Option.some.injEq]
  constructor
  · rintro ⟨accepted, rfl⟩
    exact ⟨accepted, rfl⟩
  · rintro ⟨accepted, rfl⟩
    exact ⟨accepted, rfl⟩

theorem wordWhere?_starts {accepts : List Char → Bool} {text piece : List Char}
    (rejectsEmpty : accepts [] = false) (found : wordWhere? accepts text = some piece) :
    Starts piece text := by
  rcases wordWhere?_eq_some_iff.mp found with ⟨accepted, rfl⟩
  refine ⟨?_, word_isPrefix text⟩
  intro empty
  rw [empty, rejectsEmpty] at accepted
  contradiction

namespace Keyword

def lexeme? (keyword : Keyword) (text : List Char) : Option (List Char) :=
  wordWhere? (· == keyword.spelling) text

theorem lexeme?_starts {keyword : Keyword} {text piece : List Char}
    (found : keyword.lexeme? text = some piece) : Starts piece text := by
  apply wordWhere?_starts ?_ found
  cases keyword <;> rfl

end Keyword

def identifierLimit : Nat := 32

/-- A word that starts with a letter and keeps to the limit on identifiers. -/
def isIdentifier : List Char → Bool
  | [] => false
  | first :: later => first.isAlpha && later.length < identifierLimit

def identifier? (text : List Char) : Option (List Char) :=
  wordWhere? isIdentifier text

theorem identifier?_starts {text piece : List Char} (found : identifier? text = some piece) :
    Starts piece text :=
  wordWhere?_starts rfl found

end Lexis
