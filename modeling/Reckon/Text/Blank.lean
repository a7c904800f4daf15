import Reckon.Text.CodePoints

/-!
Contract: blank characters and trimming.

Owns: the characters with the Unicode property White_Space, and removal of such
characters from both ends of a text.
-/

set_option autoImplicit false

namespace Reckon.Text

def blankRanges : List CodeRange :=
  [⟨0x0009, 0x000D⟩, ⟨0x0020, 0x0020⟩, ⟨0x0085, 0x0085⟩, ⟨0x00A0, 0x00A0⟩,
   ⟨0x1680, 0x1680⟩, ⟨0x2000, 0x200A⟩, ⟨0x2028, 0x2029⟩, ⟨0x202F, 0x202F⟩,
   ⟨0x205F, 0x205F⟩, ⟨0x3000, 0x3000⟩]

def isBlank (char : Char) : Bool :=
  covered blankRanges char

/-- Blanks inside the text stay. -/
def trim (text : List Char) : List Char :=
  ((text.dropWhile isBlank).reverse.dropWhile isBlank).reverse

end Reckon.Text
