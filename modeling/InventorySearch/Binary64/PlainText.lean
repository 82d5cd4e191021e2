import InventorySearch.Binary64.Shortest

/-!
# Doubles in running text

How a number is shown in a query and in a text report: the shortest decimal that
reads back, in positional notation whatever its size, and without a point when it
is whole.

Reading is more generous than writing: a plus sign, a missing whole or fraction,
an exponent and any letter case are accepted.
-/

namespace InventorySearch.Binary64

/-- The text of a number in running text. -/
def plainText : Binary64 → List Char
  | nan => ['N', 'a', 'N']
  | infinite negative => if negative then ['-', 'i', 'n', 'f'] else ['i', 'n', 'f']
  | finite negative quanta _ =>
    let magnitude := (shortest .up quanta).positional
    if negative then '-' :: magnitude else magnitude

/-- Reads the power of ten behind the digits of a number; none is a power of zero. -/
def readPower? : List Char → Option Int
  | [] => some 0
  | mark :: rest =>
    let (negative, digits) :=
      match rest with
      | '-' :: digits => (true, digits)
      | '+' :: digits => (false, digits)
      | digits => (false, digits)
    if mark = 'e' && !digits.isEmpty && digits.all Char.isDigit then
      let power : Int := Text.numeralValue digits
      some (if negative then -power else power)
    else none

/-- Reads a number without its sign, in lower case. -/
def readMagnitude? (negative : Bool) (text : List Char) : Option Binary64 :=
  if text = ['n', 'a', 'n'] then some nan
  else if ["inf".toList, "infinity".toList].contains text then some (infinite negative)
  else
    let (whole, rest) := text.span Char.isDigit
    let (fraction, rest) :=
      match rest with
      | '.' :: rest => rest.span Char.isDigit
      | rest => ([], rest)
    if whole.isEmpty && fraction.isEmpty then none
    else (readPower? rest).map fun power =>
      Decimal.toBinary64Bounded negative
        ⟨Text.numeralValue (whole ++ fraction), power - fraction.length⟩

/-- Reads a number as it stands in running text. -/
def ofPlainText? (text : List Char) : Option Binary64 :=
  match text.map Char.toLower with
  | '-' :: rest => readMagnitude? true rest
  | '+' :: rest => readMagnitude? false rest
  | rest => readMagnitude? false rest

end InventorySearch.Binary64
