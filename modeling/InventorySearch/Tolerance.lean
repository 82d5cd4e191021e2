import InventorySearch.Text.EditDistance
import InventorySearch.Text.Lowercase
import InventorySearch.Text.Occurrence
import InventorySearch.Text.Words

/-!
# Tolerance for typing errors

When a name counts as containing a search text.  Letter case never matters.  The
search text may occur as it stands; if it is long enough it may also occur with a
few typing errors, but then it has to begin where a word of the name begins, so
that `bronse` finds a bronze bar and not every longer word with a similar middle.
-/

namespace InventorySearch

/-- How many typing errors are forgiven, and from which length on. -/
structure Tolerance where
  /-- The most insertions, deletions and substitutions that are forgiven. -/
  maxEdits : Nat := 1
  /-- The least number of characters of a search text whose typing errors are forgiven. -/
  minTypoLength : Nat := 5
deriving DecidableEq, Repr, Inhabited

namespace Tolerance

/-- The usual tolerance: one error in texts of at least five characters. -/
def standard : Tolerance := {}

/-- No errors forgiven. -/
def exact : Tolerance := { standard with maxEdits := 0 }

/-- The least distance between a word and any part of a text that begins where a word of the text
begins; the length of the word if the text is empty. -/
def wordDistance (text word : List Char) : Nat :=
  ((Text.wordStarts text).map (Text.openingDistance · word)).min?.getD word.length

/-- Whether the tolerance forgives errors in a search text of this length.  A text no longer than
the number of forgiven errors could turn into anything, so it gets no tolerance. -/
def forgives (t : Tolerance) (length : Nat) : Bool :=
  t.maxEdits ≠ 0 && t.minTypoLength ≤ length && t.maxEdits < length

/-- Whether a lower-case name contains a lower-case search text, typing errors forgiven. -/
def acceptsLower (t : Tolerance) (haystack needle : List Char) : Bool :=
  Text.occursIn needle haystack ||
    (t.forgives needle.length && decide (wordDistance haystack needle ≤ t.maxEdits))

/-- Whether a name contains a search text, letter case ignored and typing errors forgiven. -/
def accepts (t : Tolerance) (haystack needle : String) : Bool :=
  t.acceptsLower (Text.lower haystack.toList) (Text.lower needle.toList)

end Tolerance

end InventorySearch
