import Lexis.Text.Ranges

/-!
# White space

The characters with the Unicode property `White_Space`, and texts with such characters removed from
their ends. The lexical rules themselves know fewer blanks: this wider class only trims what is
shown to a reader.
-/

namespace Lexis.Text

/-- The code points with the property `White_Space`. -/
def blankRanges : List CodeRange :=
  [⟨0x09, 0x0D⟩, ⟨0x20, 0x20⟩, ⟨0x85, 0x85⟩, ⟨0xA0, 0xA0⟩, ⟨0x1680, 0x1680⟩, ⟨0x2000, 0x200A⟩,
    ⟨0x2028, 0x2029⟩, ⟨0x202F, 0x202F⟩, ⟨0x205F, 0x205F⟩, ⟨0x3000, 0x3000⟩]

def isBlank (char : Char) : Bool :=
  CodeRange.anyCovers blankRanges char

def trimEnd (text : List Char) : List Char :=
  (text.reverse.dropWhile isBlank).reverse

def trim (text : List Char) : List Char :=
  trimEnd (text.dropWhile isBlank)

end Lexis.Text
