/-!
# Powers

Powers of natural numbers under a name of their own, `power`, for two reasons.

* `b ^ n` is not the same term everywhere.  In the modules that the program is made of it
  is `Nat.pow`, and where Mathlib's algebra is in scope, as in some of the proofs, it is the
  power of a monoid.  A bound that is written in both places would have two spellings, which
  `rw` and `simp` do not identify.
* The powers are large: quanta are counted up to `2 ^ 2098`.  `simp` puts a numeral for
  every power of numerals up to a limit for the exponent, and complains beyond it.  A `power`
  stays as it is until a proof asks for its value.

The lemmas are those facts of the core library about `Nat.pow` and `Nat.log2` that proofs
rewrite with, said of `power`.
-/

namespace InventorySearch

/-- A power of a natural number, which `simp` does not evaluate. -/
def power (base exponent : Nat) : Nat := Nat.pow base exponent

@[simp]
theorem power_zero (base : Nat) : power base 0 = 1 :=
  rfl

theorem power_add (base m n : Nat) : power base (m + n) = power base m * power base n :=
  Nat.pow_add base m n

theorem mul_power (a b n : Nat) : power (a * b) n = power a n * power b n :=
  Nat.mul_pow a b n

theorem power_pos {base : Nat} (n : Nat) (h : 0 < base) : 0 < power base n :=
  Nat.pow_pos h

theorem power_le_power {base m n : Nat} (h : 0 < base) (hmn : m ≤ n) :
    power base m ≤ power base n :=
  Nat.pow_le_pow_right h hmn

theorem power_dvd_power {m n : Nat} (base : Nat) (h : m ≤ n) : power base m ∣ power base n :=
  Nat.pow_dvd_pow base h

/-- The binary logarithm is below a bound when the number is below that power of two. -/
theorem log2_lt_iff {n k : Nat} (h : n ≠ 0) : n.log2 < k ↔ n < power 2 k :=
  Nat.log2_lt h

/-- A number is below the power of two behind its binary logarithm. -/
theorem lt_power_log2 (n : Nat) : n < power 2 (n.log2 + 1) :=
  Nat.lt_log2_self

/-- The binary logarithm of a power of two. -/
theorem log2_power (n : Nat) : (power 2 n).log2 = n :=
  Nat.log2_two_pow

end InventorySearch
