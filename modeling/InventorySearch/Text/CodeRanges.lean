/-!
# Ranges of code points

A class of characters, written as the closed ranges of code points it consists
of.  The ranges are ascending and apart, so a look-up stops at the first range
that lies beyond the character.
-/

namespace InventorySearch.Text

/-- A class of characters as ascending closed ranges of code points. -/
abbrev CodeRanges := List (Nat × Nat)

/-- Whether the class has a character of this code point. -/
def CodeRanges.containsCode (code : Nat) : CodeRanges → Bool
  | [] => false
  | (first, last) :: ranges =>
    if code < first then false
    else code ≤ last || CodeRanges.containsCode code ranges

/-- Whether the class has the character. -/
def CodeRanges.contains (ranges : CodeRanges) (c : Char) : Bool :=
  CodeRanges.containsCode c.toNat ranges

end InventorySearch.Text
