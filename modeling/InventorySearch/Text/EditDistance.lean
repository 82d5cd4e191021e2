/-!
# Edit distance from an opening

How many insertions, deletions and substitutions of single characters it takes, at
least, to turn some opening of a text into a given word.

The text is read one character at a time.  After each of them a column holds the
distances between the opening read so far and every opening of the word, the
shortest first, so its last cell belongs to the whole word.  Reading stops early
once every cell exceeds the best distance seen: later cells can only be larger
still.
-/

namespace InventorySearch.Text

/-- The cells of the next column below its first one.  For each character of the word, `cell` is
the cell just computed and the list holds the old cells from the one beside `cell` on. -/
def cellsBelow (c : Char) (cell : Nat) : List Char → List Nat → List Nat
  | w :: word, beside :: below :: old =>
    let substituted := beside + if w = c then 0 else 1
    let next := min substituted (min (below + 1) (cell + 1))
    next :: cellsBelow c next word (below :: old)
  | _, _ => []

/-- The column after one more character of the text. -/
def nextColumn (c : Char) (word : List Char) : List Nat → List Nat
  | [] => []
  | first :: old => (first + 1) :: cellsBelow c (first + 1) word (first :: old)

/-- The least of the best distance so far and those of all longer openings. -/
def bestDistance (word : List Char) : List Char → List Nat → Nat → Nat
  | [], _, best => best
  | c :: text, column, best =>
    let column := nextColumn c word column
    let best := min best (column.getLastD best)
    if column.all (best < ·) then best else bestDistance word text column best

/-- The least distance between a word and an opening of a text, the empty opening included. -/
def openingDistance (text word : List Char) : Nat :=
  bestDistance word text (List.range (word.length + 1)) word.length

end InventorySearch.Text
