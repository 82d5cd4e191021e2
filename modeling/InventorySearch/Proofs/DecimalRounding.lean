import InventorySearch.Binary64.Shortest
import InventorySearch.Proofs.NearestDouble

/-!
# Decimals and the doubles they round to

Three facts about the double nearest to a decimal number.

* `Decimal.toBinary64Bounded_eq`: answering for very large and very small exponents
  by size alone changes no answer.
* `Decimal.toBinary64_stripZeros`: trailing zeros of the coefficient do not matter.
* `Binary64.toBinary64_shortest`: the shortest decimal of a double reads back.  The
  search only returns candidates that do, and the exact decimal behind it does
  because a representable count of quanta rounds to itself.
-/

namespace InventorySearch

/-! ## Very large and very small quotients -/

theorem quantaLimit_le_nearestQuanta {num den : Nat} (h : quantaLimit ≤ num / den) :
    quantaLimit ≤ nearestQuanta num den := by
  have hne : num / den ≠ 0 := Nat.ne_of_gt (Nat.lt_of_lt_of_le Binary64.quantaLimit_pos h)
  have hlog : 2098 ≤ (num / den).log2 :=
    Nat.not_lt.1 fun hlt => absurd ((log2_lt_iff hne).1 hlt) (Nat.not_lt.2 h)
  have hexcess : excessBits (num / den) = (num / den).log2 - 52 := rfl
  have hpositive : excessBits (num / den) ≠ 0 := by omega
  have hpower := power_le_nearestQuanta hpositive
  exact Nat.le_trans (power_le_power (by decide) (by omega)) hpower

/-- What is less than half a quantum rounds to none. -/
theorem nearestQuanta_eq_zero {num den : Nat} (h : 2 * num < den) : nearestQuanta num den = 0 := by
  have hdiv : num / den = 0 := Nat.div_eq_of_lt (by omega)
  have hmod : num % den = num := Nat.mod_eq_of_lt (by omega)
  have hshift : power 2 (excessBits 0) = 1 := rfl
  rw [nearestQuanta, hdiv, hshift, Nat.mul_one, Nat.mul_one]
  rcases roundHalfEven_cases num den with ⟨hround, -⟩ | ⟨-, hhalf⟩
  · rw [hround, hdiv]
  · omega

/-- Three binary places are less than one decimal place. -/
theorem power_two_le_power_ten (n : Nat) : power 2 (3 * n) ≤ power 10 n := by
  have h : power 2 (3 * n) = power 8 n := Nat.pow_mul 2 3 n
  rw [h]
  exact Nat.pow_le_pow_left (by decide) n

theorem Binary64.ofQuanta_eq_of_nearestQuanta {negative : Bool} {num den quanta : Nat}
    (h : nearestQuanta num den = quanta) (hrepresentable : Representable quanta) :
    ofQuanta negative num den = .finite negative quanta hrepresentable := by
  subst h
  exact dif_pos hrepresentable.1

namespace Decimal

theorem toBinary64_of_isHuge (negative : Bool) {d : Decimal} (h : d.isHuge = true) :
    d.toBinary64 negative = .infinite negative := by
  simp only [isHuge, Bool.and_eq_true, decide_eq_true_eq] at h
  obtain ⟨hdigits, hexponent⟩ := h
  have hden : (-d.exponent).toNat = 0 := by omega
  have hten : power 2 1024 ≤ power 10 d.exponent.toNat :=
    Nat.le_trans (by decide +kernel : power 2 1024 ≤ power 10 310)
      (power_le_power (by decide) (by omega))
  have hlimit : quantaLimit = power 2 1024 * quantaPerOne := by
    rw [quantaPerOne, ← power_add]
    rfl
  have hlarge : quantaLimit ≤ d.digits * power 10 d.exponent.toNat * quantaPerOne / power 10 0 := by
    rw [power_zero, Nat.div_one, hlimit]
    refine Nat.mul_le_mul_right _ (Nat.le_trans hten ?_)
    exact Nat.le_mul_of_pos_left _ (Nat.pos_of_ne_zero hdigits)
  rw [toBinary64, hden, Binary64.ofRatio, Binary64.ofQuanta,
    dif_neg (Nat.not_lt.2 (quantaLimit_le_nearestQuanta hlarge))]

theorem toBinary64_of_isTiny (negative : Bool) {d : Decimal} (h : d.isTiny = true) :
    d.toBinary64 negative = .finite negative 0 Binary64.representable_zero := by
  have hsmall : 2 * (d.digits * power 10 d.exponent.toNat * quantaPerOne) <
      power 10 (-d.exponent).toNat := by
    simp only [isTiny, Bool.or_eq_true, decide_eq_true_eq] at h
    rcases h with h | h
    · rw [h]
      simpa using power_pos _ (by decide)
    · have hexponent : d.exponent.toNat = 0 := by omega
      rw [hexponent, power_zero, Nat.mul_one, ← Nat.mul_assoc, Nat.mul_comm 2]
      calc d.digits * 2 * quantaPerOne
          < power 2 (d.digits.log2 + 1) * 2 * quantaPerOne := by
            refine Nat.mul_lt_mul_of_pos_right ?_ (power_pos _ (by decide))
            exact Nat.mul_lt_mul_of_pos_right (lt_power_log2 _) (by decide)
        _ = power 2 (d.digits.log2 + 1 + 1 + 1074) := by
            rw [power_add _ _ 1074, power_add _ _ 1]
            rfl
        _ ≤ power 2 (3 * (-d.exponent).toNat) := power_le_power (by decide) (by omega)
        _ ≤ power 10 (-d.exponent).toNat := power_two_le_power_ten _
  rw [toBinary64, Binary64.ofRatio]
  exact Binary64.ofQuanta_eq_of_nearestQuanta (nearestQuanta_eq_zero hsmall) _

/-- Both ways to round a decimal agree. -/
theorem toBinary64Bounded_eq (negative : Bool) (d : Decimal) :
    d.toBinary64Bounded negative = d.toBinary64 negative := by
  unfold toBinary64Bounded
  split
  · next h => exact (toBinary64_of_isHuge negative h).symm
  · split
    · next h => exact (toBinary64_of_isTiny negative h).symm
    · rfl

/-! ## Trailing zeros -/

/-- A trailing zero of the coefficient can be moved into the exponent. -/
theorem toBinary64_mul_ten (negative : Bool) (n : Nat) (e : Int) :
    toBinary64 negative ⟨10 * n, e⟩ = toBinary64 negative ⟨n, e + 1⟩ := by
  simp only [toBinary64]
  rcases Int.lt_or_le e 0 with hneg | hpos
  · have hnum : e.toNat = 0 ∧ (e + 1).toNat = 0 := by omega
    have hden : (-e).toNat = 1 + (-(e + 1)).toNat := by omega
    rw [hnum.1, hnum.2, hden, power_add, Nat.mul_assoc]
    exact Binary64.ofRatio_mul_left (by decide) negative _ _
  · have hnum : (e + 1).toNat = 1 + e.toNat := by omega
    have hden : (-e).toNat = 0 ∧ (-(e + 1)).toNat = 0 := by omega
    have hten : power 10 1 = 10 := rfl
    rw [hden.1, hden.2, hnum, power_add, hten, Nat.mul_comm 10 n, Nat.mul_assoc]

theorem toBinary64_stripZerosUpTo (negative : Bool) (fuel : Nat) (d : Decimal) :
    (d.stripZerosUpTo fuel).toBinary64 negative = d.toBinary64 negative := by
  induction fuel generalizing d with
  | zero => rfl
  | succ fuel ih =>
    rw [stripZerosUpTo]
    split
    · next hzero =>
      have hdigits : 10 * (d.digits / 10) = d.digits := by omega
      rw [ih, ← toBinary64_mul_ten, hdigits]
    · rfl

theorem toBinary64_stripZeros (negative : Bool) (d : Decimal) :
    d.stripZeros.toBinary64 negative = d.toBinary64 negative :=
  toBinary64_stripZerosUpTo negative _ d

end Decimal

/-! ## The shortest decimal -/

namespace Binary64

/-- A quotient rounds to a double of the sign that is asked for. -/
theorem ofRatio_cases (negative : Bool) (num den : Nat) :
    ofRatio negative num den = .infinite negative ∨
      ∃ quanta h, ofRatio negative num den = .finite negative quanta h := by
  unfold ofRatio ofQuanta
  split
  · next h => exact .inr ⟨_, representable_nearestQuanta h, rfl⟩
  · exact .inl rfl

namespace Shortest

theorem toBinary64_of_readsBack {quanta : Nat} {d : Decimal} (h : readsBack quanta d = true) :
    ∃ hrepresentable, d.toBinary64 false = .finite false quanta hrepresentable := by
  unfold readsBack Decimal.toBinary64 at h
  unfold Decimal.toBinary64
  rcases ofRatio_cases false (d.digits * power 10 d.exponent.toNat)
    (power 10 (-d.exponent).toNat) with hround | ⟨found, hfound, hround⟩
  · rw [hround] at h
    exact absurd h (by simp [hasQuanta])
  · rw [hround] at h ⊢
    obtain rfl : found = quanta := by simpa [hasQuanta] using h
    exact ⟨hfound, rfl⟩

/-- A candidate that is taken reads back. -/
theorem readsBack_of_onGrid {tie : TieRule} {quanta : Nat} {unit : Int} {d : Decimal}
    (h : onGrid tie quanta unit = some d) : readsBack quanta d = true := by
  unfold onGrid at h
  dsimp only at h
  split at h
  · next hlower =>
    obtain rfl := Option.some.inj h
    split
    · next hupper => exact (Bool.and_eq_true_iff.1 hupper).1
    · exact hlower
  · split at h
    · next hupper =>
      obtain rfl := Option.some.inj h
      exact hupper
    · exact absurd h (by simp)

/-- The decimal that equals a count of quanta. -/
theorem toBinary64_exact {quanta : Nat} (h : Representable quanta) :
    (exact quanta).toBinary64 false = .finite false quanta h := by
  have hnum : quanta * power 5 1074 * power 10 0 * quantaPerOne = quanta * power 10 1074 := by
    rw [power_zero, Nat.mul_one, quantaPerOne, Nat.mul_assoc, ← mul_power]
  have hexponent : (-1074 : Int).toNat = 0 ∧ (-(-1074) : Int).toNat = 1074 := by decide
  rw [exact, Decimal.toBinary64, ofRatio, hexponent.1, hexponent.2, hnum]
  exact ofQuanta_eq_of_nearestQuanta
    (nearestQuanta_mul_self (.inl h) (power_pos 1074 (by decide))) h

/-- What the search finds reads back. -/
theorem toBinary64_search (tie : TieRule) {quanta : Nat} (h : Representable quanta) :
    (search tie quanta).toBinary64 false = .finite false quanta h := by
  unfold search
  dsimp only
  generalize hfound : (List.range 17).findSome? _ = found
  cases found with
  | none => exact toBinary64_exact h
  | some d =>
    obtain ⟨n, -, hgrid⟩ := List.exists_of_findSome?_eq_some hfound
    obtain ⟨_, hround⟩ := toBinary64_of_readsBack (readsBack_of_onGrid hgrid)
    exact hround

end Shortest

/-- The shortest decimal of a double reads back. -/
theorem toBinary64_shortest (tie : TieRule) {quanta : Nat} (h : Representable quanta) :
    (shortest tie quanta).toBinary64 false = .finite false quanta h := by
  unfold shortest
  split
  · next hzero =>
    subst hzero
    exact Decimal.toBinary64_of_isTiny false rfl
  · rw [Decimal.toBinary64_stripZeros]
    exact Shortest.toBinary64_search tie h

end Binary64

end InventorySearch
