import InventorySearch.Power
import InventorySearch.Text.Numeral

/-!
# Decimal numbers

A non-negative decimal number as an integer coefficient and a power of ten, and
its positional notation, with as many zeros as it takes.
-/

namespace InventorySearch

/-- The non-negative number `digits * 10 ^ exponent`. -/
structure Decimal where
  /-- The coefficient; its numeral holds the significant digits. -/
  digits : Nat
  /-- The power of ten. -/
  exponent : Int
deriving DecidableEq, Repr

namespace Decimal

/-- The power of ten of the leading digit. -/
def magnitude (d : Decimal) : Int := (Text.numeral d.digits).length - 1 + d.exponent

/-- Moves one trailing zero of the coefficient into the exponent, at most `fuel` times. -/
def stripZerosUpTo : Nat → Decimal → Decimal
  | 0, d => d
  | fuel + 1, d =>
    if d.digits ≠ 0 ∧ d.digits % 10 = 0 then
      stripZerosUpTo fuel ⟨d.digits / 10, d.exponent + 1⟩
    else d

/-- The same number with no trailing zero in its coefficient. -/
def stripZeros (d : Decimal) : Decimal :=
  stripZerosUpTo (Text.numeral d.digits).length d

/-- The digits before the point. -/
def wholePart (d : Decimal) : List Char :=
  Text.numeral (d.digits * power 10 d.exponent.toNat / power 10 (-d.exponent).toNat)

/-- The digits after the point: one for each negative power of ten. -/
def fractionPart (d : Decimal) : List Char :=
  if d.exponent < 0 then
    (Text.numeral (d.digits % power 10 (-d.exponent).toNat)).leftpad (-d.exponent).toNat '0'
  else []

/-- Positional notation: all digits, and a point only before a fraction. -/
def positional (d : Decimal) : List Char :=
  if d.fractionPart.isEmpty then d.wholePart else d.wholePart ++ '.' :: d.fractionPart

end Decimal

end InventorySearch
