import InventorySearch.Binary64.Scaling
import InventorySearch.Proofs.DecimalRounding

/-!
# Scaling that rounds only once

Scaling a significand by a power of ten rounds the significand, the power, and their product
or quotient.  The first two are exact if they are doubles themselves: a significand up to
`2 ^ 53`, and a power up to `10 ^ 22`, whose odd part `5 ^ 22` is below `2 ^ 53` too.  Then only
the last step rounds, and the result is the nearest double (`Binary64.scale_ofRatio`).
-/

namespace InventorySearch

/-- A natural number that is a double. -/
def IsDouble (n : Nat) : Prop := Representable (n * quantaPerOne)

/-- A number of 53 bits with zeros behind it is a double, if there are not too many of them. -/
theorem isDouble_shifted {significand : Nat} (shift : Nat) (h : significand ≤ power 2 53)
    (hshift : shift < 971) : IsDouble (significand * power 2 shift) := by
  have hquanta : significand * power 2 shift * quantaPerOne =
      significand * power 2 (shift + 1074) := by
    rw [Nat.mul_assoc, quantaPerOne, ← power_add]
  have hbelow : significand * power 2 (shift + 1074) < quantaLimit := by
    calc significand * power 2 (shift + 1074)
        ≤ power 2 53 * power 2 (shift + 1074) := Nat.mul_le_mul_right _ h
      _ = power 2 (53 + (shift + 1074)) := (power_add 2 _ _).symm
      _ < power 2 2098 := by
        rw [← log2_lt_iff (Nat.ne_of_gt (power_pos _ (by decide))), log2_power]
        omega
  rw [IsDouble, hquanta]
  exact ⟨hbelow, dvd_shifted _ h⟩

theorem isDouble_of_le {n : Nat} (h : n ≤ power 2 53) : IsDouble n := by
  simpa using isDouble_shifted 0 h (by decide)

theorem isDouble_power_ten {exponent : Nat} (h : exponent ≤ 22) : IsDouble (power 10 exponent) := by
  have hodd : power 5 exponent ≤ power 2 53 :=
    Nat.le_trans (power_le_power (by decide) h) (by decide : power 5 22 ≤ power 2 53)
  have hten : power 10 exponent = power 5 exponent * power 2 exponent := mul_power 5 2 exponent
  rw [hten]
  exact isDouble_shifted exponent hodd (by omega)

namespace Binary64

variable {m n : Nat}

theorem ofRatio_of_isDouble (h : IsDouble n) :
    ofRatio false n 1 = .finite false (n * quantaPerOne) h := by
  have hself := nearestQuanta_mul_self (.inl h) Nat.one_pos
  rw [Nat.mul_one] at hself
  exact ofQuanta_eq_of_nearestQuanta hself h

theorem ofQuanta_mul_left {k : Nat} (hk : 0 < k) (negative : Bool) (num den : Nat) :
    ofQuanta negative (k * num) (k * den) = ofQuanta negative num den := by
  simp only [ofQuanta, nearestQuanta_mul_left hk]

/-- The product of two numbers that are doubles is rounded once. -/
theorem multiply_ofRatio (hm : IsDouble m) (hn : IsDouble n) :
    (ofRatio false m 1).multiply (ofRatio false n 1) = ofRatio false (m * n) 1 := by
  have hquanta : m * quantaPerOne * (n * quantaPerOne) =
      quantaPerOne * (m * n * quantaPerOne) := by
    rw [Nat.mul_mul_mul_comm, Nat.mul_left_comm]
  have hpos : 0 < quantaPerOne := power_pos 1074 (by decide)
  have hscaled := ofQuanta_mul_left hpos false (m * n * quantaPerOne) 1
  rw [Nat.mul_one] at hscaled
  rw [ofRatio_of_isDouble hm, ofRatio_of_isDouble hn]
  simp only [multiply, hquanta]
  exact hscaled

/-- So is their quotient. -/
theorem divide_ofRatio (hm : IsDouble m) (hn : IsDouble n) (hpos : 0 < n) :
    (ofRatio false m 1).divide (ofRatio false n 1) = ofRatio false m n := by
  have hquanta : 0 < quantaPerOne := power_pos 1074 (by decide)
  have hne : n * quantaPerOne ≠ 0 := Nat.ne_of_gt (Nat.mul_pos hpos hquanta)
  rw [ofRatio_of_isDouble hm, ofRatio_of_isDouble hn]
  simp only [divide, if_neg hne]
  rw [Nat.mul_comm (m * quantaPerOne), Nat.mul_comm n]
  exact ofQuanta_mul_left hquanta false (m * quantaPerOne) n

/-- A significand of 53 bits and a power of ten up to the 22nd give the nearest double. -/
theorem scale_ofRatio {exponent : Int} (hm : m ≤ power 2 53) (hexponent : exponent.natAbs ≤ 22) :
    (ofRatio false m 1).scale exponent = (⟨m, exponent⟩ : Decimal).toBinary64 false := by
  have hdouble := isDouble_of_le hm
  unfold scale Decimal.toBinary64
  by_cases hnegative : exponent < 0
  · have htimes : ((-exponent).toNat - 1) / greatestScale = 0 :=
      Nat.div_eq_of_lt (by unfold greatestScale; omega)
    have hpower : exponent.toNat = 0 := by omega
    have hten : IsDouble (power 10 (-exponent).toNat) := isDouble_power_ten (by omega)
    simp only [if_pos hnegative, htimes, divideTimes, Nat.zero_mul, Nat.sub_zero, hpower,
      power_zero, Nat.mul_one]
    exact divide_ofRatio hdouble hten (power_pos _ (by decide))
  · have hsmall : exponent ≤ (greatestScale : Int) := by
      unfold greatestScale
      omega
    have hpower : (-exponent).toNat = 0 := by omega
    have hten : IsDouble (power 10 exponent.toNat) := isDouble_power_ten (by omega)
    rw [if_neg hnegative, if_pos hsmall, hpower, power_zero]
    exact multiply_ofRatio hdouble hten

end Binary64

end InventorySearch
