import InventorySearch.Text.CodeRanges

/-!
# White space

The characters of the White_Space property, and trimming them from both ends of
a text.
-/

namespace InventorySearch.Text

/-- The characters with the White_Space property. -/
def whiteSpaceRanges : CodeRanges :=
  [(0x9, 0xD), (0x20, 0x20), (0x85, 0x85), (0xA0, 0xA0), (0x1680, 0x1680), (0x2000, 0x200A),
   (0x2028, 0x2029), (0x202F, 0x202F), (0x205F, 0x205F), (0x3000, 0x3000)]

/-- Whether a character is white space: blanks, line ends and the wider spaces. -/
def isWhiteSpace (c : Char) : Bool := whiteSpaceRanges.contains c

/-- Drops the white space at both ends. -/
def trim (s : List Char) : List Char :=
  ((s.dropWhile isWhiteSpace).reverse.dropWhile isWhiteSpace).reverse

/-- Whether a text has nothing but white space, the empty text included. -/
def isBlank (s : String) : Bool := (trim s.toList).isEmpty

end InventorySearch.Text
