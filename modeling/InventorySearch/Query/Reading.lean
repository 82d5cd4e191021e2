import InventorySearch.Query.Basic
import InventorySearch.Text.Lowercase
import InventorySearch.Text.Numeral
import InventorySearch.Text.WhiteSpace

/-!
# Reading queries

Every text is a query.  Trimmed and in lower case, it is a property query if it
consists of a keyword, a colon and an optional modifier; all other texts ask for
themselves as a name.  A modifier is a word of ASCII letters, or a number of ASCII
digits with an optional run of `<`, `>` and `=` before it.  A run that is not one of
the five operators is read and then dropped.
-/

namespace InventorySearch.Query

/-- Whether a character can belong to an operator. -/
def isOperatorCharacter (c : Char) : Bool := c = '<' || c = '>' || c = '='

/-- Reads a number that makes up a whole text: digits, and perhaps a point and more digits. -/
def readNumber? (text : List Char) : Option Binary64 :=
  match text.span Char.isDigit with
  | ([], _) => none
  | (whole, []) => some (.ofRatio false (Text.numeralValue whole) 1)
  | (whole, '.' :: fraction) =>
    if fraction.all Char.isDigit then
      some (.ofRatio false (Text.numeralValue (whole ++ fraction)) (power 10 fraction.length))
    else none
  | _ => none

/-- Reads what stands behind the colon. -/
def readFilter? (text : List Char) : Option Filter :=
  if text.isEmpty then some .any
  else if text.all Char.isAlpha then some (.named (String.ofList text))
  else
    let (operator, number) := text.span isOperatorCharacter
    (readNumber? number).map (.numeric (Comparison.ofSymbol? operator))

/-- Reads a property query that makes up a whole text. -/
def readProperty? (text : List Char) : Option Query :=
  match text.span (· ≠ ':') with
  | (word, _ :: modifier) => do
    let subject ← Property.ofKeyword? word
    let filter ← readFilter? modifier
    return .property subject filter
  | (_, []) => none

/-- Reads a text that is trimmed and in lower case. -/
def readLower (text : List Char) : Query :=
  (readProperty? text).getD (.name (String.ofList text))

/-- Reads a query. -/
def read (input : String) : Query := readLower (Text.lower (Text.trim input.toList))

end InventorySearch.Query
