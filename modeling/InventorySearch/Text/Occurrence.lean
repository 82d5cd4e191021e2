/-!
# Occurrence

Whether one text occurs in another as a block of consecutive characters.
-/

namespace InventorySearch.Text

/-- Whether a text occurs somewhere in another, in one piece.  The empty text occurs in every
text. -/
def occursIn (needle : List Char) : List Char → Bool
  | [] => needle.isEmpty
  | c :: rest => needle.isPrefixOf (c :: rest) || occursIn needle rest

end InventorySearch.Text
