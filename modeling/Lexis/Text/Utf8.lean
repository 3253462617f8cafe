/-!
# UTF-8 offsets

Positions in a source are counted in the bytes of its UTF-8 form, while the lexical rules read
characters. This file joins the two views of a text. Its main statement, `splitAtByte?_eq_some_iff`,
says that a text can be cut at a byte offset exactly where some characters fill that many bytes.
-/

namespace Lexis.Text

def bytes (text : List Char) : List UInt8 :=
  text.flatMap String.utf8EncodeChar

/-- The number of bytes of a text in UTF-8. -/
def size : List Char → Nat
  | [] => 0
  | first :: later => first.utf8Size + size later

@[simp]
theorem bytes_nil : bytes [] = [] := rfl

@[simp]
theorem bytes_append (left right : List Char) :
    bytes (left ++ right) = bytes left ++ bytes right := by
  simp [bytes]

@[simp]
theorem size_nil : size [] = 0 := rfl

@[simp]
theorem size_cons (first : Char) (later : List Char) :
    size (first :: later) = first.utf8Size + size later := rfl

@[simp]
theorem size_append (left right : List Char) : size (left ++ right) = size left + size right := by
  induction left with
  | nil => simp
  | cons first later ih => simp [ih, Nat.add_assoc]

@[simp]
theorem length_bytes (text : List Char) : (bytes text).length = size text := by
  induction text with
  | nil => rfl
  | cons first later ih => simpa [bytes, String.length_utf8EncodeChar] using ih

theorem size_eq_zero_iff {text : List Char} : size text = 0 ↔ text = [] := by
  cases text with
  | nil => simp
  | cons first later =>
      have positive := first.utf8Size_pos
      simp only [size_cons, reduceCtorEq, iff_false]
      omega

theorem length_le_size (text : List Char) : text.length ≤ size text := by
  induction text with
  | nil => exact Nat.le_refl 0
  | cons first later ih =>
      have positive := first.utf8Size_pos
      rw [List.length_cons, size_cons]
      omega

/-- A text has as many bytes as characters exactly if each of its characters is ASCII. -/
theorem size_eq_length_iff {text : List Char} :
    size text = text.length ↔ ∀ char ∈ text, char.toNat < 128 := by
  induction text with
  | nil => simp
  | cons first later ih =>
      have narrowIff : first.utf8Size = 1 ↔ first.toNat < 128 := by
        rw [Char.utf8Size_eq_one_iff, UInt32.le_iff_toNat_le]
        exact Nat.lt_succ_iff.symm
      have positive := first.utf8Size_pos
      have laterFits := length_le_size later
      rw [List.forall_mem_cons, ← ih, ← narrowIff, size_cons, List.length_cons]
      omega

theorem utf8EncodeChar_of_ascii {char : Char} (ascii : char.toNat < 128) :
    String.utf8EncodeChar char = [UInt8.ofNat char.toNat] := by
  have small : char.val.toNat ≤ 127 := Nat.le_of_lt_succ ascii
  exact if_pos small

theorem ascii_of_mem_utf8EncodeChar {char : Char} {byte : UInt8}
    (member : byte ∈ String.utf8EncodeChar char) (ascii : byte.toNat < 128) :
    char.toNat = byte.toNat := by
  have equal : char.toNat = char.val.toNat := rfl
  simp only [String.utf8EncodeChar] at member
  split at member
  · simp only [List.mem_singleton] at member
    subst member
    simp only [UInt8.toNat_ofNat']
    omega
  · split at member
    · simp only [List.mem_cons, List.not_mem_nil, or_false] at member
      rcases member with rfl | rfl <;> simp only [UInt8.toNat_ofNat'] at ascii <;> omega
    · split at member
      · simp only [List.mem_cons, List.not_mem_nil, or_false] at member
        rcases member with rfl | rfl | rfl <;> simp only [UInt8.toNat_ofNat'] at ascii <;> omega
      · simp only [List.mem_cons, List.not_mem_nil, or_false] at member
        rcases member with rfl | rfl | rfl | rfl <;>
          simp only [UInt8.toNat_ofNat'] at ascii <;> omega

/-- A byte below 128 stands in a text where the character with that code point stands. -/
theorem mem_bytes_iff_of_ascii {text : List Char} {char : Char} (ascii : char.toNat < 128) :
    UInt8.ofNat char.toNat ∈ bytes text ↔ char ∈ text := by
  have recovered : (UInt8.ofNat char.toNat).toNat = char.toNat := by
    simp only [UInt8.toNat_ofNat']
    omega
  simp only [bytes, List.mem_flatMap]
  constructor
  · rintro ⟨other, other_mem, byte_mem⟩
    have same := ascii_of_mem_utf8EncodeChar byte_mem (by omega)
    have sameChar : other = char := Char.toNat_inj.mp (by omega)
    exact sameChar ▸ other_mem
  · intro char_mem
    exact ⟨char, char_mem, by simp [utf8EncodeChar_of_ascii ascii]⟩

def lastByte? (text : List Char) : Option UInt8 :=
  text.getLast?.bind fun last => (String.utf8EncodeChar last).getLast?

theorem getLast?_bytes (text : List Char) : (bytes text).getLast? = lastByte? text := by
  rcases List.eq_nil_or_concat text with rfl | ⟨earlier, last, rfl⟩
  · rfl
  · have encoded_ne_nil : String.utf8EncodeChar last ≠ [] := by
      intro empty
      have length := String.length_utf8EncodeChar last
      have positive := last.utf8Size_pos
      simp only [empty, List.length_nil] at length
      omega
    simp [bytes, lastByte?, List.getLast?_eq_some_getLast encoded_ne_nil]

/-- Cuts a text at a byte offset, where the offset falls between two characters or at an end. -/
def splitAtByte? : List Char → Nat → Option (List Char × List Char)
  | text, 0 => some ([], text)
  | [], _ + 1 => none
  | first :: later, offset + 1 =>
      if first.utf8Size ≤ offset + 1 then
        (splitAtByte? later (offset + 1 - first.utf8Size)).map fun (before, after) =>
          (first :: before, after)
      else
        none

theorem splitAtByte?_eq_some_iff {text before after : List Char} {offset : Nat} :
    splitAtByte? text offset = some (before, after) ↔
      text = before ++ after ∧ size before = offset := by
  fun_induction splitAtByte? text offset generalizing before with
  | case1 text =>
      simp only [Option.some.injEq, Prod.mk.injEq]
      constructor
      · rintro ⟨rfl, rfl⟩
        simp
      · rintro ⟨rfl, empty⟩
        simp [size_eq_zero_iff.mp empty]
  | case2 offset =>
      simp only [reduceCtorEq, false_iff, not_and]
      intro parts
      have empty : before = [] := by simp_all
      simp [empty]
  | case3 offset first later fits ih =>
      cases before with
      | nil => simp
      | cons head tail =>
          simp only [Option.map_eq_some_iff, Prod.mk.injEq, List.cons.injEq, List.cons_append,
            size_cons, Prod.exists]
          constructor
          · rintro ⟨inner, rest, found, ⟨rfl, rfl⟩, rfl⟩
            rcases ih.mp found with ⟨parts, measured⟩
            exact ⟨⟨rfl, parts⟩, by omega⟩
          · rintro ⟨⟨rfl, parts⟩, measured⟩
            exact ⟨tail, after, ih.mpr ⟨parts, by omega⟩, ⟨rfl, rfl⟩, rfl⟩
  | case4 offset first later tooWide =>
      simp only [reduceCtorEq, false_iff, not_and]
      intro parts
      cases before with
      | nil => simp
      | cons head tail =>
          simp only [List.cons_append, List.cons.injEq] at parts
          rcases parts with ⟨rfl, -⟩
          simp only [size_cons]
          omega

/-- The text between two byte offsets, where both fall between characters; an end before the start
gives the empty text. -/
def slice? (text : List Char) (start stop : Nat) : Option (List Char) := do
  let (_, after) ← splitAtByte? text start
  let (inner, _) ← splitAtByte? after (stop - start)
  return inner

end Lexis.Text
