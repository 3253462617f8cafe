import Lexis.Text.Utf8

/-!
# Lines

A line runs up to and including its line feed; the last line of a text may lack one. `lineAt?` finds
the line that holds a byte of a text, and there is none only past the end.
-/

namespace Lexis.Text

/-- The first line of a text, its line feed included. -/
def firstLine (text : List Char) : List Char :=
  let body := text.takeWhile (· != '\n')
  body ++ (text.drop body.length).take 1

theorem firstLine_isPrefix (text : List Char) : firstLine text <+: text := by
  rcases List.takeWhile_prefix (l := text) (· != '\n') with ⟨rest, parts⟩
  refine ⟨(text.drop (text.takeWhile (· != '\n')).length).drop 1, ?_⟩
  rw [firstLine, List.append_assoc, List.take_append_drop]
  exact List.prefix_iff_eq_append.mp ⟨rest, parts⟩

theorem firstLine_ne_nil {text : List Char} (nonempty : text ≠ []) : firstLine text ≠ [] := by
  cases text with
  | nil => contradiction
  | cons first later =>
      by_cases isFeed : first = '\n' <;> simp [firstLine, isFeed]

theorem firstLine_feed (later : List Char) : firstLine ('\n' :: later) = ['\n'] := by
  simp [firstLine]

theorem firstLine_cons_of_ne {first : Char} (notFeed : first ≠ '\n') (later : List Char) :
    firstLine (first :: later) = first :: firstLine later := by
  simp [firstLine, notFeed]

theorem firstLine_append_of_notMem {before : List Char} (noFeed : '\n' ∉ before)
    (rest : List Char) : firstLine (before ++ rest) = before ++ firstLine rest := by
  induction before with
  | nil => rfl
  | cons first later ih =>
      simp only [List.mem_cons, not_or] at noFeed
      rw [List.cons_append, firstLine_cons_of_ne (Ne.symm noFeed.1), ih noFeed.2, List.cons_append]

theorem firstLine_of_notMem {text : List Char} (noFeed : '\n' ∉ text) : firstLine text = text := by
  have whole := firstLine_append_of_notMem noFeed []
  rwa [List.append_nil, show firstLine [] = [] from rfl, List.append_nil] at whole

theorem firstLine_append_feed {before : List Char} (noFeed : '\n' ∉ before) (later : List Char) :
    firstLine (before ++ '\n' :: later) = before ++ ['\n'] := by
  rw [firstLine_append_of_notMem noFeed, firstLine_feed]

end Lexis.Text

namespace Lexis

/-- A line of a text and a byte of that line. Lines are counted from 1 and hold their line feed, and
the column is the number of bytes of the line before the one in question. -/
structure LinePlace where
  number : Nat
  text : String
  column : Nat

namespace LinePlace

/-- Finds the line that holds the byte `distance` bytes ahead, where the text ahead starts at the
beginning of the line with the given number. -/
def find? (number distance : Nat) (ahead : List Char) : Option LinePlace :=
  match ahead with
  | [] => none
  | first :: later =>
      let line := Text.firstLine (first :: later)
      if distance < Text.size line then
        some { number := number, text := String.ofList line, column := distance }
      else
        find? (number + 1) (distance - Text.size line) ((first :: later).drop line.length)
termination_by ahead.length
decreasing_by
  have linePositive := List.length_pos_iff.mpr
    (Text.firstLine_ne_nil (List.cons_ne_nil first later))
  simp only [List.length_drop, List.length_cons]
  omega

theorem find?_of_lt {number distance : Nat} {ahead : List Char}
    (within : distance < Text.size (Text.firstLine ahead)) :
    find? number distance ahead =
      some
        { number := number, text := String.ofList (Text.firstLine ahead), column := distance } := by
  cases ahead with
  | nil => contradiction
  | cons first later =>
      rw [find?]
      exact if_pos within

theorem find?_of_le {number distance : Nat} {ahead : List Char}
    (behind : Text.size (Text.firstLine ahead) ≤ distance) :
    find? number distance ahead =
      find? (number + 1) (distance - Text.size (Text.firstLine ahead))
        (ahead.drop (Text.firstLine ahead).length) := by
  cases ahead with
  | nil => simp [find?]
  | cons first later =>
      rw [find?]
      exact if_neg (Nat.not_lt.mpr behind)

end LinePlace

def lineAt? (content : String) (offset : Nat) : Option LinePlace :=
  LinePlace.find? 1 offset content.toList

end Lexis
