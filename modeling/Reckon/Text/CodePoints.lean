/-!
Contract: sets of characters given as ranges of code points.

Owns: membership of a character in such a set.

Does not own: any particular set.
-/

set_option autoImplicit false

namespace Reckon.Text

/-- The code points from `first` to `last`, both included. -/
structure CodeRange where
  first : Nat
  last : Nat
deriving DecidableEq, Repr

def CodeRange.contains (range : CodeRange) (char : Char) : Bool :=
  decide (range.first ≤ char.toNat) && decide (char.toNat ≤ range.last)

def covered (ranges : List CodeRange) (char : Char) : Bool :=
  ranges.any fun range => range.contains char

end Reckon.Text
