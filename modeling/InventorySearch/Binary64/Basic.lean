import InventorySearch.Power

/-!
# Double-precision numbers

The numbers of the binary64 format as exact mathematical objects: not-a-number, the
two infinities, and the finite numbers, each a sign and a count of quanta.  A
quantum is the least positive number of the format, `2 ^ -1074`; every finite
number is a whole multiple of it.  Zero has a sign of its own.

A count of quanta belongs to the format when it is below `2 ^ 2098` and its 53
leading bits hold all of it.
-/

namespace InventorySearch

/-- How many quanta the number one consists of. -/
def quantaPerOne : Nat := power 2 1074

/-- The least count of quanta that lies beyond the format. -/
def quantaLimit : Nat := power 2 2098

/-- Whether a count of quanta is the magnitude of a double: it is in range and, below its 53
leading bits, has only zeros. -/
def Representable (quanta : Nat) : Prop :=
  quanta < quantaLimit ∧ power 2 (quanta.log2 - 52) ∣ quanta

/-- A double-precision number.  Two of them are equal when they are the same datum, so the zeros
differ and not-a-number equals itself. -/
inductive Binary64 where
  /-- Not a number. -/
  | nan
  /-- An infinity. -/
  | infinite (negative : Bool)
  /-- A sign and a count of quanta. -/
  | finite (negative : Bool) (quanta : Nat) (representable : Representable quanta)
deriving DecidableEq

namespace Binary64

theorem quantaLimit_pos : 0 < quantaLimit := power_pos 2098 (by decide)

theorem representable_zero : Representable 0 := ⟨quantaLimit_pos, Nat.dvd_zero _⟩

/-- Positive zero. -/
def zero : Binary64 := .finite false 0 representable_zero

/-- Negative zero, where a sum of no numbers starts. -/
def negativeZero : Binary64 := .finite true 0 representable_zero

instance : Inhabited Binary64 := ⟨zero⟩

/-- Where a number lies on the line, in quanta, the infinities just beyond all finite numbers.
Both zeros lie at the same place and not-a-number lies nowhere. -/
def position : Binary64 → Option Int
  | nan => none
  | infinite negative => some (if negative then -quantaLimit else quantaLimit)
  | finite negative quanta _ => some (if negative then -quanta else quanta)

/-- Strictly less; false when either side is not a number. -/
def less (x y : Binary64) : Bool :=
  match x.position, y.position with
  | some p, some q => p < q
  | _, _ => false

/-- Less or equal; false when either side is not a number. -/
def atMost (x y : Binary64) : Bool :=
  match x.position, y.position with
  | some p, some q => p ≤ q
  | _, _ => false

/-- The number with the other sign. -/
def negate : Binary64 → Binary64
  | nan => nan
  | infinite negative => infinite !negative
  | finite negative quanta h => finite (!negative) quanta h

/-- The number without its sign. -/
def magnitude : Binary64 → Binary64
  | nan => nan
  | infinite _ => infinite false
  | finite _ quanta h => finite false quanta h

/-- Whether the number is finite and its magnitude is a given count of quanta. -/
def hasQuanta (quanta : Nat) : Binary64 → Bool
  | finite _ found _ => found = quanta
  | _ => false

/-- Whether the number is neither infinite nor not-a-number. -/
def isFinite : Binary64 → Bool
  | finite .. => true
  | _ => false

end Binary64

end InventorySearch
