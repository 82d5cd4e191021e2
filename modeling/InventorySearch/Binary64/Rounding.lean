import InventorySearch.Binary64.Basic

/-!
# Rounding to double precision

The double nearest to a quotient of natural numbers.  A tie goes to the neighbour
with the even significand, and what rounds beyond the largest double becomes
infinite.

The main fact is that the rounded count of quanta has the form that the format
asks for, `representable_shifted`.
-/

namespace InventorySearch

/-- The whole number nearest to `num / den`; of two equally near, the even one. -/
def roundHalfEven (num den : Nat) : Nat :=
  let floor := num / den
  let twice := 2 * (num % den)
  if twice < den ∨ (twice = den ∧ floor % 2 = 0) then floor else floor + 1

theorem roundHalfEven_le (num den : Nat) : roundHalfEven num den ≤ num / den + 1 := by
  unfold roundHalfEven
  dsimp only
  split <;> omega

/-- A significand of at most 53 bits, or exactly `2 ^ 53`, shifted to the left has no more than 53
significant bits. -/
theorem dvd_shifted {significand : Nat} (shift : Nat) (h : significand ≤ power 2 53) :
    power 2 ((significand * power 2 shift).log2 - 52) ∣ significand * power 2 shift := by
  by_cases hzero : significand = 0
  · subst hzero
    simp
  by_cases htop : significand = power 2 53
  · subst htop
    rw [← power_add, log2_power]
    exact power_dvd_power 2 (by omega)
  · have hlt : significand < power 2 53 := by omega
    have hproduct : significand * power 2 shift < power 2 (53 + shift) := by
      rw [power_add]
      exact Nat.mul_lt_mul_of_pos_right hlt (power_pos shift (by decide))
    have hne : significand * power 2 shift ≠ 0 :=
      Nat.mul_ne_zero hzero (Nat.ne_of_gt (power_pos shift (by decide)))
    have hlog : (significand * power 2 shift).log2 < 53 + shift := (log2_lt_iff hne).2 hproduct
    exact Nat.dvd_trans (power_dvd_power 2 (by omega)) (Nat.dvd_mul_left _ _)

/-- How far a count of quanta exceeds 53 bits. -/
def excessBits (quanta : Nat) : Nat := quanta.log2 - 52

/-- The 53 leading bits of a number. -/
theorem significand_lt (quanta : Nat) : quanta / power 2 (excessBits quanta) < power 2 53 := by
  rw [Nat.div_lt_iff_lt_mul (power_pos _ (by decide)), ← power_add]
  refine Nat.lt_of_lt_of_le (lt_power_log2 quanta) (power_le_power (by decide) ?_)
  unfold excessBits
  omega

/-- The number of quanta, not yet held against the limit, that is nearest to `num / den` among
those of 53 significant bits. -/
def nearestQuanta (num den : Nat) : Nat :=
  let shift := excessBits (num / den)
  roundHalfEven num (den * power 2 shift) * power 2 shift

/-- The rounded significand has at most 53 bits, or is exactly `2 ^ 53`. -/
theorem roundHalfEven_shifted_le (num den : Nat) :
    roundHalfEven num (den * power 2 (excessBits (num / den))) ≤ power 2 53 := by
  have hround := roundHalfEven_le num (den * power 2 (excessBits (num / den)))
  rw [← Nat.div_div_eq_div_mul] at hround
  have hfloor := significand_lt (num / den)
  omega

theorem representable_nearestQuanta {num den : Nat} (h : nearestQuanta num den < quantaLimit) :
    Representable (nearestQuanta num den) :=
  ⟨h, dvd_shifted _ (roundHalfEven_shifted_le num den)⟩

namespace Binary64

/-- The double of the given sign nearest to `num / den` quanta. -/
def ofQuanta (negative : Bool) (num den : Nat) : Binary64 :=
  if h : nearestQuanta num den < quantaLimit then
    .finite negative (nearestQuanta num den) (representable_nearestQuanta h)
  else .infinite negative

/-- The double of the given sign nearest to `num / den`. -/
def ofRatio (negative : Bool) (num den : Nat) : Binary64 :=
  ofQuanta negative (num * quantaPerOne) den

/-- The double nearest to an integer. -/
def ofInt (n : Int) : Binary64 := ofRatio (n < 0) n.natAbs 1

/-- The sum, rounded.  An exact zero is negative only as the sum of two negative numbers; infinities
of different sign have no sum. -/
def add : Binary64 → Binary64 → Binary64
  | nan, _ => nan
  | _, nan => nan
  | infinite a, infinite b => if a = b then infinite a else nan
  | infinite a, finite .. => infinite a
  | finite .., infinite b => infinite b
  | finite a m _, finite b n _ =>
    let total : Int := (if a then -(m : Int) else m) + (if b then -(n : Int) else n)
    if total = 0 then finite (a && b) 0 representable_zero
    else ofQuanta (total < 0) total.natAbs 1

/-- The difference, rounded. -/
def subtract (x y : Binary64) : Binary64 := x.add y.negate

/-- The sum of a list, added from left to right.  It starts at negative zero, which leaves every
number unchanged. -/
def sum (numbers : List Binary64) : Binary64 := numbers.foldl add negativeZero

end Binary64

end InventorySearch
