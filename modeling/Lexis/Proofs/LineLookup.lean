import Lexis.Proofs.Endings
import Lexis.Proofs.Shifts

/-!
# The line that holds a byte

The lookup of a line takes a text line by line and goes past every line that ends before the byte it
looks for. It measures the lines in bytes and never asks where a character begins, so it has an
answer for the bytes inside a character as well.

What it answers can be said without it. The text is cut in front of the line and behind it, the line
feeds in front of the line make its number, and the byte stands so many bytes behind the first cut.
Going past a line takes that line off what stands in front of the line that is sought, and this is
what carries the induction. A text has exactly one such line for each of its bytes.
-/

namespace Lexis

namespace EndsLine

variable {front back : List Char}

theorem append (frontWhole : EndsLine front) (backWhole : EndsLine back) :
    EndsLine (front ++ back) := by
  rcases Decidable.em (back = []) with rfl | nonempty
  · rwa [List.append_nil]
  · intro last member
    rw [List.getLast?_append, backWhole.getLast?_eq nonempty] at member
    exact (Option.some.inj member).symm

/-- The first of several whole lines is read off them in front of any text. -/
theorem exists_firstLine (whole : EndsLine front) (nonempty : front ≠ []) (rest : List Char) :
    ∃ later, front = Text.firstLine (front ++ rest) ++ later ∧ EndsLine later ∧
      front.count '\n' = later.count '\n' + 1 := by
  have feed : '\n' ∈ front := List.mem_of_getLast? (whole.getLast?_eq nonempty)
  rcases List.eq_append_cons_of_mem feed with ⟨body, later, rfl, noFeed⟩
  have lineIs : Text.firstLine (body ++ '\n' :: (later ++ rest)) = body ++ ['\n'] :=
    Text.firstLine_append_feed noFeed (later ++ rest)
  have lines : EndsLine ((body ++ ['\n']) ++ later) := by simpa using whole
  refine ⟨later, ?_, lines.of_append, ?_⟩
  · rw [List.append_assoc, List.cons_append, lineIs, List.append_assoc, List.singleton_append]
  · rw [List.count_append, List.count_cons_self, List.count_eq_zero_of_not_mem noFeed,
      Nat.zero_add]

end EndsLine

namespace Text

variable {text : List Char}

/-- A line is read off the front of a text where it has a line feed at most at its end, and has one
unless the text ends with it. -/
theorem firstLine_append_of_oneLine {line rest : List Char} (nonempty : line ≠ [])
    (oneLine : '\n' ∉ line.dropLast) (ends : rest ≠ [] → EndsLine line) :
    firstLine (line ++ rest) = line := by
  apply firstLine_append_eq_iff.mpr
  constructor
  · have last (char : Char) : firstLine [char] = [char] := by
      rcases Decidable.em (char = '\n') with rfl | notFeed
      · exact firstLine_feed []
      · exact firstLine_cons_of_ne notFeed []
    rw [← List.dropLast_concat_getLast nonempty, firstLine_append_of_notMem oneLine, last]
  · rcases Decidable.em (rest = []) with empty | goesOn
    · exact Or.inr empty
    · exact Or.inl ((ends goesOn).getLast?_eq nonempty)

theorem firstLine_append_drop (text : List Char) :
    firstLine text ++ text.drop (firstLine text).length = text :=
  List.prefix_iff_eq_append.mp (firstLine_isPrefix text)

theorem size_firstLine_add (text : List Char) :
    size (firstLine text) + size (text.drop (firstLine text).length) = size text := by
  rw [← size_append, firstLine_append_drop]

theorem notMem_dropLast_firstLine (text : List Char) : '\n' ∉ (firstLine text).dropLast := by
  rcases Decidable.em ('\n' ∈ text) with feed | noFeed
  · rcases List.eq_append_cons_of_mem feed with ⟨body, rest, rfl, bodyNoFeed⟩
    rwa [firstLine_append_feed bodyNoFeed, List.dropLast_concat]
  · rw [firstLine_of_notMem noFeed]
    exact fun member => noFeed (List.dropLast_subset text member)

/-- The first line has a line feed unless the text ends with it. -/
theorem endsLine_firstLine (goesOn : text.drop (firstLine text).length ≠ []) :
    EndsLine (firstLine text) ∧ (firstLine text).count '\n' = 1 := by
  rcases Decidable.em ('\n' ∈ text) with feed | noFeed
  · rcases List.eq_append_cons_of_mem feed with ⟨body, rest, rfl, bodyNoFeed⟩
    rw [firstLine_append_feed bodyNoFeed, List.count_append,
      List.count_eq_zero_of_not_mem bodyNoFeed, List.count_singleton_self]
    exact ⟨by simp [EndsLine], rfl⟩
  · rw [firstLine_of_notMem noFeed, List.drop_length] at goesOn
    contradiction

end Text

namespace LinePlace

/-- The line of a place stands between two texts, and lines are counted from `first` on. -/
structure StandsBetween (place : LinePlace) (first : Nat) (before after : List Char) : Prop where
  before_endsLine : EndsLine before
  number_eq : place.number = first + before.count '\n'
  oneLine : '\n' ∉ place.text.toList.dropLast
  text_endsLine : after ≠ [] → EndsLine place.text.toList

/-- The line of a place is the line of a text that holds the byte at an offset, and the byte stands
at the column of the place. Lines are counted from `first` on. -/
def HoldsByte (place : LinePlace) (first : Nat) (text : List Char) (offset : Nat) : Prop :=
  ∃ before after, text = before ++ (place.text.toList ++ after) ∧
    place.StandsBetween first before after ∧ Text.size before + place.column = offset ∧
    place.column < Text.size place.text.toList

variable {place : LinePlace} {first offset : Nat} {text before after : List Char}

theorem text_ne_nil (inLine : place.column < Text.size place.text.toList) :
    place.text.toList ≠ [] := by
  intro empty
  rw [empty] at inLine
  exact Nat.not_lt_zero _ inLine

theorem StandsBetween.firstLine_eq (stands : place.StandsBetween first before after)
    (inLine : place.column < Text.size place.text.toList) :
    Text.firstLine (place.text.toList ++ after) = place.text.toList :=
  Text.firstLine_append_of_oneLine (text_ne_nil inLine) stands.oneLine stands.text_endsLine

theorem not_holdsByte_nil : ¬place.HoldsByte first [] offset := by
  rintro ⟨before, after, parts, -, -, inLine⟩
  have empty := List.append_eq_nil_iff.mp (List.append_eq_nil_iff.mp parts.symm).2
  exact text_ne_nil inLine empty.1

/-- A byte in the first line of a text is held by that line. -/
theorem holdsByte_iff_of_lt (within : offset < Text.size (Text.firstLine text)) :
    place.HoldsByte first text offset ↔
      place =
        { number := first, text := String.ofList (Text.firstLine text), column := offset } := by
  constructor
  · rintro ⟨before, after, rfl, stands, rfl, inLine⟩
    rcases Decidable.em (before = []) with rfl | nonempty
    · have lineIs := stands.firstLine_eq inLine
      rcases place with ⟨number, line, column⟩
      have numberIs : number = first := stands.number_eq
      rw [List.nil_append, lineIs, numberIs, String.ofList_toList, Text.size_nil, Nat.zero_add]
    · -- the first line would end in front of the line of the place
      rcases stands.before_endsLine.exists_firstLine nonempty (place.text.toList ++ after) with
        ⟨later, parts, -, -⟩
      have measured := congrArg Text.size parts
      rw [Text.size_append] at measured
      omega
  · rintro rfl
    refine ⟨[], text.drop (Text.firstLine text).length, ?_, ⟨?_, rfl, ?_, ?_⟩, Nat.zero_add _, ?_⟩
    · simp [Text.firstLine_append_drop]
    · simp [EndsLine]
    · simpa using Text.notMem_dropLast_firstLine text
    · simpa only [String.toList_ofList] using fun goesOn => (Text.endsLine_firstLine goesOn).1
    · simpa using within

/-- A byte behind the first line of a text is held by a line of what follows that line. -/
theorem holdsByte_iff_of_le (behind : Text.size (Text.firstLine text) ≤ offset) :
    place.HoldsByte first text offset ↔
      place.HoldsByte (first + 1) (text.drop (Text.firstLine text).length)
        (offset - Text.size (Text.firstLine text)) := by
  have taken := Text.firstLine_append_drop text
  constructor
  · rintro ⟨before, after, rfl, stands, rfl, inLine⟩
    rcases Decidable.em (before = []) with rfl | nonempty
    · rw [List.nil_append, stands.firstLine_eq inLine, Text.size_nil] at behind
      omega
    · rcases stands.before_endsLine.exists_firstLine nonempty (place.text.toList ++ after) with
        ⟨later, parts, laterWhole, counted⟩
      generalize Text.firstLine (before ++ (place.text.toList ++ after)) = line at *
      subst parts
      rw [List.append_assoc] at taken ⊢
      rw [Text.size_append] at behind ⊢
      refine ⟨later, after, List.append_cancel_left taken,
        ⟨laterWhole, ?_, stands.oneLine, stands.text_endsLine⟩, ?_, inLine⟩
      · rw [stands.number_eq, counted]
        omega
      · omega
  · rintro ⟨before, after, restParts, stands, placed, inLine⟩
    have goesOn : text.drop (Text.firstLine text).length ≠ [] := by
      rw [restParts]
      simp [text_ne_nil inLine]
    rcases Text.endsLine_firstLine goesOn with ⟨lineWhole, counted⟩
    refine ⟨Text.firstLine text ++ before, after, ?_,
      ⟨lineWhole.append stands.before_endsLine, ?_, stands.oneLine, stands.text_endsLine⟩,
      ?_, inLine⟩
    · rw [List.append_assoc, ← restParts, taken]
    · rw [stands.number_eq, List.count_append, counted, Nat.add_assoc]
    · rw [Text.size_append]
      omega

/-- The lookup comes to the line that holds the byte. -/
theorem find?_eq_some_iff :
    find? first offset text = some place ↔ place.HoldsByte first text offset := by
  fun_induction find? first offset text with
  | case1 first offset => simp [not_holdsByte_nil]
  | case2 first offset head later line within =>
      rw [Option.some.injEq, holdsByte_iff_of_lt within, eq_comm]
  | case3 first offset head later line behind ih =>
      rw [ih, ← holdsByte_iff_of_le (Nat.not_lt.mp behind)]

theorem find?_eq_none_iff : find? first offset text = none ↔ Text.size text ≤ offset := by
  fun_induction find? first offset text with
  | case1 first offset => simp
  | case2 first offset head later line within =>
      have measured : Text.size line + _ = _ := Text.size_firstLine_add (head :: later)
      simp only [reduceCtorEq, false_iff, Nat.not_le]
      omega
  | case3 first offset head later line behind ih =>
      have measured : Text.size line + Text.size ((head :: later).drop line.length) = _ :=
        Text.size_firstLine_add (head :: later)
      rw [ih]
      omega

end LinePlace

/-- The lookup finds a line just for the offsets at which a text has a byte, also inside a
character. What it finds is the one line of the text that holds the byte: whole lines stand in front
of it, as many as its number says, it has no line feed but at its end, it has one there unless the
text ends with it, and the byte stands in it at the column. -/
theorem lineAt?_exact (content : String) (offset : Nat) :
    (lineAt? content offset = none ↔ Text.size content.toList ≤ offset) ∧
      ∀ place, lineAt? content offset = some place ↔ place.HoldsByte 1 content.toList offset :=
  ⟨LinePlace.find?_eq_none_iff, fun _ => LinePlace.find?_eq_some_iff⟩

/-- The second byte of an accented letter, on a line that ends the text without a line feed. -/
example : lineAt? "a\n\né" 4 = some { number := 3, text := "é", column := 1 } := by
  cbv

end Lexis
