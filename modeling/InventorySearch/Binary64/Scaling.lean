import InventorySearch.Binary64.Rounding

/-!
# Scaling doubles by powers of ten

Products and quotients of doubles, and what comes of multiplying a double by a power of
ten.  The powers of ten are doubles themselves, of which only those up to `10 ^ 22` are
exact, and every product and every quotient is rounded.
-/

namespace InventorySearch.Binary64

/-- The product, rounded.  Zero times an infinity is not a number. -/
def multiply : Binary64 → Binary64 → Binary64
  | nan, _ => nan
  | _, nan => nan
  | infinite a, infinite b => infinite (a != b)
  | infinite a, finite b n _ => if n = 0 then nan else infinite (a != b)
  | finite a m _, infinite b => if m = 0 then nan else infinite (a != b)
  | finite a m _, finite b n _ => ofQuanta (a != b) (m * n) quantaPerOne

/-- The quotient, rounded.  Neither zeros nor infinities have a quotient among themselves. -/
def divide : Binary64 → Binary64 → Binary64
  | nan, _ => nan
  | _, nan => nan
  | infinite _, infinite _ => nan
  | infinite a, finite b _ _ => infinite (a != b)
  | finite a _ _, infinite b => finite (a != b) 0 representable_zero
  | finite a m _, finite b n _ =>
    if n = 0 then (if m = 0 then nan else infinite (a != b))
    else ofQuanta (a != b) (m * quantaPerOne) n

/-- The greatest power of ten within the range of the format. -/
def greatestScale : Nat := 308

/-- The double nearest to a power of ten. -/
def tenTo (exponent : Nat) : Binary64 := ofRatio false (power 10 exponent) 1

/-- Divides by the greatest power of ten some times, as long as something is left to divide. -/
def divideTimes : Nat → Binary64 → Binary64
  | 0, x => x
  | times + 1, x =>
    if x.hasQuanta 0 then x else divideTimes times (x.divide (tenTo greatestScale))

/-- A double that is not negative times a power of ten.  There is a double for each power up to the
greatest one; what is divided by more than that is divided several times. -/
def scale (x : Binary64) (exponent : Int) : Binary64 :=
  if exponent < 0 then
    let times := ((-exponent).toNat - 1) / greatestScale
    (divideTimes times x).divide (tenTo ((-exponent).toNat - times * greatestScale))
  else if exponent ≤ greatestScale then x.multiply (tenTo exponent.toNat)
  else if x.hasQuanta 0 then x
  else infinite false

end InventorySearch.Binary64
