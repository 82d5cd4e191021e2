import InventorySearch.Text.WordCharacter

/-!
# Word starts

A word starts at the beginning of a text and behind every character that is neither
a letter nor a digit.
-/

namespace InventorySearch.Text

/-- What remains of a text at each place where a word starts.  The flag says whether the text
begins right behind a word character. -/
def wordStartsAfter (inWord : Bool) : List Char → List (List Char)
  | [] => []
  | c :: rest =>
    let later := wordStartsAfter (isWordCharacter c) rest
    if inWord then later else (c :: rest) :: later

/-- What remains of a text at each place where a word starts. -/
def wordStarts (text : List Char) : List (List Char) := wordStartsAfter false text

end InventorySearch.Text
