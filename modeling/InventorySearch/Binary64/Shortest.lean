import InventorySearch.Decimal.Rounding

/-!
# The shortest decimal of a double

The decimal number with the fewest digits that reads back as a given double and,
among those with that many digits, the one nearest to it.

The search tries one digit, then two, and so on.  For each count of digits the
double lies between two neighbours on a decimal grid, and only these can be the
answer.  Whether a candidate will do is decided by reading it: a candidate that is
returned reads back by construction.  Seventeen digits are always enough; the exact
decimal stands behind them.
-/

namespace InventorySearch

/-- Which of two equally near candidates is taken. -/
inductive TieRule where
  /-- The larger one. -/
  | up
  /-- The one whose last digit is even. -/
  | even
deriving DecidableEq, Repr

namespace Binary64.Shortest

/-- The power of ten just above a positive count of quanta. -/
def decade (quanta : Nat) : Int :=
  (Text.numeral (quanta * power 10 340 / quantaPerOne)).length - 340

/-- Whether a decimal reads back as the count of quanta. -/
def readsBack (quanta : Nat) (d : Decimal) : Bool := (d.toBinary64 false).hasQuanta quanta

/-- How many units of the grid a count of quanta comes to, as a quotient of natural numbers. -/
def gridRatio (quanta : Nat) (unit : Int) : Nat × Nat :=
  (quanta * power 10 (-unit).toNat, quantaPerOne * power 10 unit.toNat)

/-- Whether the upper neighbour on the grid is the better candidate, both reading back. -/
def upperIsNearer (tie : TieRule) (ratio : Nat × Nat) : Bool :=
  let twice := 2 * (ratio.1 % ratio.2)
  match tie with
  | .up => ratio.2 ≤ twice
  | .even => ratio.2 < twice || (ratio.2 = twice && ratio.1 / ratio.2 % 2 = 1)

/-- The better of the two neighbours on the grid of a power of ten, if one reads back. -/
def onGrid (tie : TieRule) (quanta : Nat) (unit : Int) : Option Decimal :=
  let ratio := gridRatio quanta unit
  let lower : Decimal := ⟨ratio.1 / ratio.2, unit⟩
  let upper : Decimal := ⟨ratio.1 / ratio.2 + 1, unit⟩
  if readsBack quanta lower then
    some (if readsBack quanta upper && upperIsNearer tie ratio then upper else lower)
  else if readsBack quanta upper then some upper
  else none

/-- The decimal that equals a count of quanta. -/
def exact (quanta : Nat) : Decimal := ⟨quanta * power 5 1074, -1074⟩

/-- The first grid with a decimal that reads back, from that of one digit to that of seventeen. -/
def search (tie : TieRule) (quanta : Nat) : Decimal :=
  let top := decade quanta
  ((List.range 17).findSome? fun (n : Nat) => onGrid tie quanta (top - 1 - n)).getD (exact quanta)

end Binary64.Shortest

/-- The shortest decimal that reads back as a count of quanta, without trailing zeros. -/
def Binary64.shortest (tie : TieRule) (quanta : Nat) : Decimal :=
  if quanta = 0 then ⟨0, 0⟩ else (Shortest.search tie quanta).stripZeros

end InventorySearch
