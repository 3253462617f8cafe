import Lexis.Kind
import Lexis.Lexeme.Piece

/-!
# Punctuation marks and operators

A punctuation mark or an operator is recognised wherever its spelling stands, whatever comes next.
-/

namespace Lexis

namespace Punctuation

def lexeme? (form : Punctuation) (text : List Char) : Option (List Char) :=
  spelled? [form.mark] text

theorem lexeme?_starts {form : Punctuation} {text piece : List Char}
    (found : form.lexeme? text = some piece) : Starts piece text :=
  spelled?_starts (List.cons_ne_nil _ _) found

end Punctuation

namespace Operator

def lexeme? (sign : Operator) (text : List Char) : Option (List Char) :=
  spelled? sign.spelling text

theorem lexeme?_starts {sign : Operator} {text piece : List Char}
    (found : sign.lexeme? text = some piece) : Starts piece text := by
  apply spelled?_starts ?_ found
  cases sign <;> exact List.cons_ne_nil _ _

end Operator

end Lexis
