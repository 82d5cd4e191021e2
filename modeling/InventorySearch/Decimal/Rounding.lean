import InventorySearch.Binary64.Rounding
import InventorySearch.Decimal.Basic

/-!
# Rounding decimals to double precision

The double nearest to a decimal number, in two forms.  `toBinary64` is the plain
one.  A literal can have an exponent so large that its power of ten is out of
reach; `toBinary64Bounded` answers for these by their size alone.  Both give the
same double: a positive coefficient with an exponent of 310 or more is beyond the
format, and one below `2 ^ bits` times `10 ^ -power` is below half a quantum when
`bits + 1076 ≤ 3 * power`, since `8 < 10`.
-/

namespace InventorySearch.Decimal

/-- The double of the given sign nearest to a decimal number. -/
def toBinary64 (negative : Bool) (d : Decimal) : Binary64 :=
  .ofRatio negative (d.digits * power 10 d.exponent.toNat) (power 10 (-d.exponent).toNat)

/-- Whether a decimal number is so large that it rounds to an infinity. -/
def isHuge (d : Decimal) : Bool := d.digits ≠ 0 && 310 ≤ d.exponent

/-- Whether a decimal number is so small that it rounds to zero. -/
def isTiny (d : Decimal) : Bool :=
  d.digits = 0 || d.digits.log2 + 1 + 1076 ≤ 3 * (-d.exponent).toNat

/-- The double of the given sign nearest to a decimal number, with no power of ten computed that is
far beyond the format. -/
def toBinary64Bounded (negative : Bool) (d : Decimal) : Binary64 :=
  if d.isHuge then .infinite negative
  else if d.isTiny then .finite negative 0 Binary64.representable_zero
  else d.toBinary64 negative

end InventorySearch.Decimal
