/-!
# Pieces of a text

A lexeme is a non-empty piece at the start of the text that is still to be read. Every recogniser of
this library returns such a piece, which is why reading on from its end always makes progress.
-/

namespace Lexis

/-- A non-empty piece at the start of a text. -/
def Starts (piece text : List Char) : Prop :=
  piece ≠ [] ∧ piece <+: text

theorem Starts.append_drop {piece text : List Char} (starts : Starts piece text) :
    piece ++ text.drop piece.length = text := by
  rcases starts with ⟨-, rest, rfl⟩
  simp

theorem Starts.length_drop_lt {piece text : List Char} (starts : Starts piece text) :
    (text.drop piece.length).length < text.length := by
  have positive := List.length_pos_iff.mpr starts.1
  have fits := starts.2.length_le
  simp only [List.length_drop]
  omega

/-- A given spelling, if a text starts with it. -/
def spelled? (spelling text : List Char) : Option (List Char) :=
  if spelling.isPrefixOf text then some spelling else none

theorem spelled?_eq_some_iff {spelling text piece : List Char} :
    spelled? spelling text = some piece ↔ spelling = piece ∧ spelling <+: text := by
  simp only [spelled?, Option.ite_none_right_eq_some, Option.some.injEq,
    List.isPrefixOf_iff_prefix]
  exact And.comm

theorem spelled?_starts {spelling text piece : List Char} (nonempty : spelling ≠ [])
    (found : spelled? spelling text = some piece) : Starts piece text := by
  rcases spelled?_eq_some_iff.mp found with ⟨rfl, begins⟩
  exact ⟨nonempty, begins⟩

end Lexis
