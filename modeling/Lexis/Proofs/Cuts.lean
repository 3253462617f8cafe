import Lexis.Source

/-!
# Cutting a text

Places of a source are counted in bytes, and lexemes are read off its characters. This file collects
what the scan needs to pass from one view to the other: a text can be cut exactly where some of its
characters fill the bytes before the cut, it can be cut on both sides of every ASCII byte, and the
bytes on the two sides of a cut are word bytes where the characters there are word characters.
-/

namespace Lexis

namespace Text

/-- An offset falls between two characters of a text or at one of its ends. -/
def IsBoundary (text : List Char) (offset : Nat) : Prop :=
  ∃ before after, text = before ++ after ∧ size before = offset

@[simp]
theorem bytes_cons (first : Char) (later : List Char) :
    bytes (first :: later) = String.utf8EncodeChar first ++ bytes later := by
  simp [bytes]

theorem size_pos {text : List Char} (nonempty : text ≠ []) : 0 < size text := by
  have notZero : size text ≠ 0 := mt size_eq_zero_iff.mp nonempty
  omega

/-- Of two pieces at the start of a text, the one with more characters has more bytes. -/
theorem size_lt_size_iff {left right text : List Char} (leftBegins : left <+: text)
    (rightBegins : right <+: text) : size left < size right ↔ left.length < right.length := by
  rcases List.prefix_or_prefix_of_prefix leftBegins rightBegins with ⟨rest, rfl⟩ | ⟨rest, rfl⟩
  · simp only [size_append, List.length_append]
    cases rest with
    | nil => simp
    | cons first later =>
        have positive := first.utf8Size_pos
        simp only [size_cons, List.length_cons]
        omega
  · simp only [size_append, List.length_append]
    omega

theorem size_le_size_iff {left right text : List Char} (leftBegins : left <+: text)
    (rightBegins : right <+: text) : size left ≤ size right ↔ left.length ≤ right.length := by
  have sameOrder := size_lt_size_iff rightBegins leftBegins
  omega

theorem utf8EncodeChar_ne_nil (char : Char) : String.utf8EncodeChar char ≠ [] := by
  intro empty
  have length := String.length_utf8EncodeChar char
  have positive := char.utf8Size_pos
  simp only [empty, List.length_nil] at length
  omega

theorem lastByte?_append {before piece : List Char} (nonempty : piece ≠ []) :
    lastByte? (before ++ piece) = lastByte? piece := by
  have last := List.getLast?_eq_some_getLast nonempty
  simp [lastByte?, last]

theorem utf8EncodeChar_of_ascii_mem {char : Char} {byte : UInt8}
    (member : byte ∈ String.utf8EncodeChar char) (ascii : byte.toNat < 128) :
    String.utf8EncodeChar char = [byte] := by
  have same : char.toNat = byte.toNat := ascii_of_mem_utf8EncodeChar member ascii
  rw [utf8EncodeChar_of_ascii (by omega), same]
  simp

/-- An ASCII byte of a text is one of its characters, so the text can be cut before and behind it.
-/
theorem exists_char_of_ascii_byte {text : List Char} {front back : List UInt8} {byte : UInt8}
    (parts : bytes text = front ++ byte :: back) (ascii : byte.toNat < 128) :
    ∃ before char after, text = before ++ char :: after ∧ bytes before = front ∧
      String.utf8EncodeChar char = [byte] := by
  induction text generalizing front with
  | nil => simp at parts
  | cons first later ih =>
      rw [bytes_cons] at parts
      rcases List.append_eq_append_iff.mp parts with ⟨between, rfl, laterBytes⟩ |
        ⟨between, encoded, rest⟩
      · rcases ih laterBytes with ⟨before, char, after, rfl, rfl, charBytes⟩
        exact ⟨first :: before, char, after, rfl, bytes_cons first before, charBytes⟩
      · cases between with
        | nil =>
            -- the encoding of the first character ends where the byte begins
            simp only [List.append_nil] at encoded
            have laterBytes : bytes later = [] ++ byte :: back := by simpa using rest.symm
            rcases ih laterBytes with ⟨before, char, after, rfl, empty, charBytes⟩
            refine ⟨first :: before, char, after, rfl, ?_, charBytes⟩
            rw [bytes_cons, empty, List.append_nil, encoded]
        | cons head tail =>
            simp only [List.cons_append, List.cons.injEq] at rest
            rcases rest with ⟨rfl, rfl⟩
            have single : String.utf8EncodeChar first = [byte] :=
              utf8EncodeChar_of_ascii_mem (by simp [encoded]) ascii
            have frontEmpty : front = [] := by
              rw [single] at encoded
              cases front with
              | nil => rfl
              | cons other others => simp at encoded
            subst frontEmpty
            exact ⟨[], first, later, rfl, rfl, single⟩

theorem any_isWordByte_utf8EncodeChar_head? (char : Char) :
    (String.utf8EncodeChar char).head?.any isWordByte = isWordChar char := by
  by_cases ascii : char.toNat < 128
  · rw [utf8EncodeChar_of_ascii ascii]
    simp only [List.head?_cons, Option.any_some]
    apply isWordByte_eq_of_toNat_eq
    rw [UInt8.toNat_ofNat']
    omega
  · have notWord : isWordChar char = false :=
      Bool.eq_false_iff.mpr fun wordChar => ascii (ascii_of_isWordChar wordChar)
    rw [notWord, Option.any_eq_false]
    intro byte found
    refine Bool.eq_false_iff.mpr fun wordByte => ?_
    have byteAscii : byte.toNat < 128 := ascii_of_isWordChar wordByte
    have sameCode := ascii_of_mem_utf8EncodeChar (List.mem_of_head? found) byteAscii
    omega

/-- The first byte of a text is a word byte where its first character is a word character. -/
theorem any_isWordByte_head?_bytes (text : List Char) :
    (bytes text).head?.any isWordByte = text.head?.any isWordChar := by
  cases text with
  | nil => rfl
  | cons first later =>
      have head := List.head?_eq_some_head (utf8EncodeChar_ne_nil first)
      have encoded := any_isWordByte_utf8EncodeChar_head? first
      rw [head] at encoded
      simpa [head] using encoded

/-- The byte before a cut is the last byte of the text in front of it. -/
theorem getElem?_bytes_before_cut {before : List Char} (nonempty : before ≠ []) (rest : List Char) :
    (bytes (before ++ rest))[size before - 1]? = lastByte? before := by
  have positive := size_pos nonempty
  rw [bytes_append, List.getElem?_append_left (by rw [length_bytes]; omega), ← getLast?_bytes,
    List.getLast?_eq_getElem?, length_bytes]

/-- The byte at a cut is the first byte of the text behind it. -/
theorem getElem?_bytes_at_cut (before rest : List Char) :
    (bytes (before ++ rest))[size before]? = (bytes rest).head? := by
  rw [bytes_append, List.getElem?_append_right (by simp), length_bytes, Nat.sub_self,
    List.head?_eq_getElem?]

end Text

theorem cutAt_eq_ok_iff {content : String} {offset : Nat} {before rest : List Char} :
    cutAt content offset = .ok (before, rest) ↔
      content.toList = before ++ rest ∧ Text.size before = offset := by
  rw [← Text.splitAtByte?_eq_some_iff, cutAt]
  split
  next parts found => simp [found]
  next failed =>
      simp only [failed, reduceCtorEq, iff_false]
      split <;> simp

theorem cutAt_of_parts {content : String} {before rest : List Char}
    (parts : content.toList = before ++ rest) :
    cutAt content (Text.size before) = .ok (before, rest) :=
  cutAt_eq_ok_iff.mpr ⟨parts, rfl⟩

/-- A text can be cut in front of every ASCII byte, and the character with that code point stands
behind the cut. -/
theorem exists_cutAt_of_ascii {content : String} {offset : Nat} {byte : UInt8}
    (atOffset : (Text.bytes content.toList)[offset]? = some byte) (ascii : byte.toNat < 128) :
    ∃ before later, cutAt content offset = .ok (before, Char.ofUInt8 byte :: later) := by
  rcases List.getElem?_eq_some_iff.mp atOffset with ⟨inRange, here⟩
  have parts : Text.bytes content.toList = (Text.bytes content.toList).take offset ++
      byte :: (Text.bytes content.toList).drop (offset + 1) := by
    rw [← here, ← List.drop_eq_getElem_cons inRange, List.take_append_drop]
  rcases Text.exists_char_of_ascii_byte parts ascii with
    ⟨before, first, later, textParts, front, encoded⟩
  have firstIs : first = Char.ofUInt8 byte :=
    Char.toNat_inj.mp (Text.ascii_of_mem_utf8EncodeChar (by simp [encoded]) ascii)
  have placed : Text.size before = offset := by
    rw [← Text.length_bytes, front, List.length_take]
    omega
  rw [firstIs] at textParts
  exact ⟨before, later, cutAt_eq_ok_iff.mpr ⟨textParts, placed⟩⟩

theorem Lexeme.first?_nil (previous : Option UInt8) : first? previous [] = none := by
  rw [first?_eq_none_iff]
  intro kind
  rw [Option.eq_none_iff_forall_not_mem]
  intro piece found
  rcases Kind.lexemeAfter?_starts found with ⟨nonempty, begins⟩
  exact nonempty (List.prefix_nil.mp begins)

/-- The lexeme at a place between two texts is the first lexeme of the text behind the place. -/
theorem lexemeAt_of_parts {content : String} {before rest : List Char}
    (parts : content.toList = before ++ rest) (nonempty : rest ≠ []) :
    lexemeAt content (Text.size before) =
      .ok ((Lexeme.first? (Text.lastByte? before) rest).map fun lexeme =>
        (lexeme.kind, Text.size lexeme.text)) := by
  have positive := Text.size_pos nonempty
  have inside : ¬Text.size content.toList ≤ Text.size before := by
    rw [parts, Text.size_append]
    omega
  simp [lexemeAt, inside, cutAt_of_parts parts, Except.map]

/-- A lexeme is found at an offset only where the text can be cut there and opens with it behind the
cut. -/
theorem exists_first?_of_lexemeAt {content : String} {offset length : Nat} {kind : Kind}
    (found : lexemeAt content offset = .ok (some (kind, length))) :
    ∃ before rest piece, cutAt content offset = .ok (before, rest) ∧
      Lexeme.first? (Text.lastByte? before) rest = some ⟨kind, piece⟩ ∧
      Text.size piece = length := by
  simp only [lexemeAt] at found
  split at found
  · contradiction
  · cases cut : cutAt content offset with
    | error fault =>
        rw [cut] at found
        contradiction
    | ok parts =>
        rcases parts with ⟨before, rest⟩
        simp only [cut, Except.map, Except.ok.injEq, Option.map_eq_some_iff, Prod.mk.injEq] at found
        rcases found with ⟨⟨firstKind, piece⟩, recognised, rfl, rfl⟩
        exact ⟨before, rest, piece, rfl, recognised, rfl⟩

theorem sliceAt_of_parts {content : String} {before inner after : List Char}
    (parts : content.toList = before ++ (inner ++ after)) :
    sliceAt content (Text.size before) (Text.size before + Text.size inner) = .ok inner := by
  have front : cutAt content (Text.size before + Text.size inner) =
      .ok (before ++ inner, after) :=
    cutAt_eq_ok_iff.mpr ⟨by simpa using parts, by simp⟩
  have back : cutAt (String.ofList (before ++ inner)) (Text.size before) = .ok (before, inner) :=
    cutAt_eq_ok_iff.mpr ⟨by simp, rfl⟩
  simp only [sliceAt, front, bind, Except.bind, back, pure, Except.pure]

end Lexis
