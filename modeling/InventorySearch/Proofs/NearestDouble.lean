import InventorySearch.Binary64.Rounding

/-!
# Rounding picks the nearest double

`Binary64.ofRatio` works with one division and one comparison.  This module says what
it computes, without either.

The magnitudes that a result can have are the representable counts of quanta and
`quantaLimit`, which stands for infinity: the standard rounds as if it were the next
number.  `IsRounded num den quanta` says that no magnitude is nearer to `num / den`
than `quanta`, and that its significand is even where another one is as near.

* `roundHalfEven_gap_le` and `roundHalfEven_even_of_tie`: the whole number nearest to
  a quotient.
* `nearestQuanta_gap_le` and `nearestQuanta_gap_lt_of_not_dvd`: a magnitude that is not on
  the grid of 53 significant bits lies below its least point, which is nearer.
* `Binary64.isNearest_ofRatio`: the double that is given is the nearest one.
* `Binary64.atMost_ofRatio_of_le`: rounding keeps the order of quotients.
-/

namespace InventorySearch

/-- How far a count of quanta is from `num / den`, in parts of `1 / den`. -/
def gap (num den quanta : Nat) : Nat := (quanta * den - num) + (num - quanta * den)

/-! ## Whole numbers -/

/-- The gap of a whole number on either side of a quotient. -/
theorem gap_cases (num den k : Nat) (hden : 0 < den) :
    (k < num / den ∧ num % den + den ≤ gap num den k) ∨
      (k = num / den ∧ gap num den k = num % den) ∨
      (k = num / den + 1 ∧ gap num den k = den - num % den) ∨
      (num / den + 1 < k ∧ den - num % den + den ≤ gap num den k) := by
  have hnum : num / den * den + num % den = num := Nat.div_add_mod' num den
  have hrest : num % den < den := Nat.mod_lt num hden
  unfold gap
  rcases Nat.lt_trichotomy k (num / den) with hlt | heq | hgt
  · have hle : (k + 1) * den ≤ num / den * den := Nat.mul_le_mul_right den hlt
    rw [Nat.succ_mul] at hle
    omega
  · subst heq
    omega
  · rcases Nat.lt_or_eq_of_le (Nat.succ_le_of_lt hgt) with hlt | heq
    · have hle : (num / den + 2) * den ≤ k * den := Nat.mul_le_mul_right den hlt
      rw [Nat.add_mul] at hle
      omega
    · have hk : k * den = num / den * den + den := by rw [← heq, Nat.succ_mul]
      omega

/-- What lies between two numbers is no farther from a quotient than the farther one of them. -/
theorem gap_le_of_between {num den a b c : Nat} (hab : a ≤ b) (hbc : b ≤ c)
    (h : gap num den c ≤ gap num den a) : gap num den b ≤ gap num den a := by
  have hab : a * den ≤ b * den := Nat.mul_le_mul_right den hab
  have hbc : b * den ≤ c * den := Nat.mul_le_mul_right den hbc
  unfold gap at h ⊢
  omega

/-- What lies strictly between two equally far numbers is nearer than both. -/
theorem gap_lt_of_between {num den a b c : Nat} (hden : 0 < den) (hab : a < b) (hbc : b < c)
    (h : gap num den c = gap num den a) : gap num den b < gap num den a := by
  have hab : a * den < b * den := Nat.mul_lt_mul_of_pos_right hab hden
  have hbc : b * den < c * den := Nat.mul_lt_mul_of_pos_right hbc hden
  unfold gap at h ⊢
  omega

/-- The rounded whole number is the floor or the one above it, by the half of the denominator. -/
theorem roundHalfEven_cases (num den : Nat) :
    (roundHalfEven num den = num / den ∧
        (2 * (num % den) < den ∨ 2 * (num % den) = den ∧ num / den % 2 = 0)) ∨
      (roundHalfEven num den = num / den + 1 ∧
        (den < 2 * (num % den) ∨ 2 * (num % den) = den ∧ num / den % 2 = 1)) := by
  unfold roundHalfEven
  dsimp only
  split
  · next hdown => exact .inl ⟨rfl, hdown⟩
  · exact .inr ⟨rfl, by omega⟩

/-- No whole number is nearer to a quotient than the rounded one. -/
theorem roundHalfEven_gap_le (num den k : Nat) (hden : 0 < den) :
    gap num den (roundHalfEven num den) ≤ gap num den k := by
  have hk := gap_cases num den k hden
  have hr := gap_cases num den (roundHalfEven num den) hden
  have hrest : num % den < den := Nat.mod_lt num hden
  rcases roundHalfEven_cases num den with ⟨hround, hhalf⟩ | ⟨hround, hhalf⟩
  · omega
  · omega

/-- Where another whole number is as near, the rounded one is even. -/
theorem roundHalfEven_even_of_tie {num den k : Nat} (hden : 0 < den)
    (hne : k ≠ roundHalfEven num den)
    (htie : gap num den (roundHalfEven num den) = gap num den k) :
    roundHalfEven num den % 2 = 0 := by
  have hk := gap_cases num den k hden
  have hr := gap_cases num den (roundHalfEven num den) hden
  have hrest : num % den < den := Nat.mod_lt num hden
  rcases roundHalfEven_cases num den with ⟨hround, hhalf⟩ | ⟨hround, hhalf⟩
  · omega
  · omega

/-! ## Magnitudes -/

/-- The magnitudes that rounding chooses from: those of the finite doubles, and the limit for the
infinite one. -/
def IsMagnitude (quanta : Nat) : Prop := Representable quanta ∨ quanta = quantaLimit

/-- What `num / den` rounds to: no magnitude is nearer, and where another one is as near the
significand is even. -/
structure IsRounded (num den quanta : Nat) : Prop where
  magnitude : IsMagnitude quanta
  nearest : ∀ other, IsMagnitude other → gap num den quanta ≤ gap num den other
  even_of_tie : ∀ other, IsMagnitude other → other ≠ quanta →
    gap num den quanta = gap num den other → quanta / power 2 (excessBits quanta) % 2 = 0

theorem IsMagnitude.le_quantaLimit {quanta : Nat} (h : IsMagnitude quanta) :
    quanta ≤ quantaLimit := by
  rcases h with h | h
  · exact Nat.le_of_lt h.1
  · exact Nat.le_of_eq h

/-- All bits of a magnitude are among its 53 leading ones. -/
theorem IsMagnitude.dvd {quanta : Nat} (h : IsMagnitude quanta) :
    power 2 (excessBits quanta) ∣ quanta := by
  rcases h with h | h
  · exact h.2
  · rw [h, excessBits, quantaLimit, log2_power]
    exact power_dvd_power 2 (by decide)

theorem power_le_of_le_log2 {n k : Nat} (hn : n ≠ 0) (h : k ≤ n.log2) : power 2 k ≤ n :=
  Nat.le_of_not_lt fun hlt => absurd ((log2_lt_iff hn).2 hlt) (Nat.not_lt.2 h)

/-- A magnitude with bits below `shift` lies below `2 ^ (52 + shift)`. -/
theorem IsMagnitude.lt_of_not_dvd {quanta shift : Nat} (h : IsMagnitude quanta)
    (hdvd : ¬power 2 shift ∣ quanta) : quanta < power 2 (52 + shift) := by
  have hne : quanta ≠ 0 := fun hzero => hdvd (hzero ▸ Nat.dvd_zero _)
  refine (log2_lt_iff hne).1 (Nat.lt_of_not_le fun hle => hdvd ?_)
  refine Nat.dvd_trans (power_dvd_power 2 ?_) h.dvd
  unfold excessBits
  omega

/-! ## Rounding to 53 bits -/

section Nearest

variable {num den : Nat}

theorem gap_mul (num den k unit : Nat) : gap num den (k * unit) = gap num (den * unit) k := by
  rw [gap, gap, Nat.mul_assoc, Nat.mul_comm unit den]

/-- The least number with as many bits as the quotient, when these are more than 53. -/
theorem power_le_div {num den : Nat} (h : excessBits (num / den) ≠ 0) :
    power 2 (52 + excessBits (num / den)) ≤ num / den := by
  have hne : num / den ≠ 0 := fun hzero => h (by rw [hzero]; rfl)
  refine power_le_of_le_log2 hne ?_
  unfold excessBits at h ⊢
  omega

/-- A magnitude on the grid of the quotient is a whole number of its units. -/
theorem nearestQuanta_gap_le_of_dvd {other : Nat} (hden : 0 < den)
    (h : power 2 (excessBits (num / den)) ∣ other) :
    gap num den (nearestQuanta num den) ≤ gap num den other := by
  obtain ⟨k, rfl⟩ := h
  rw [Nat.mul_comm, nearestQuanta, gap_mul, gap_mul]
  exact roundHalfEven_gap_le num _ k (Nat.mul_pos hden (power_pos _ (by decide)))

/-- A magnitude off the grid of the quotient is farther away than the least point of the grid with
as many bits as the quotient. -/
theorem nearestQuanta_gap_lt_of_not_dvd {other : Nat} (hden : 0 < den)
    (hother : IsMagnitude other) (h : ¬power 2 (excessBits (num / den)) ∣ other) :
    gap num den (nearestQuanta num den) < gap num den other := by
  have hexcess : excessBits (num / den) ≠ 0 := by
    intro hzero
    rw [hzero] at h
    exact h (Nat.one_dvd other)
  have hother : other < power 2 (52 + excessBits (num / den)) := hother.lt_of_not_dvd h
  have hleast : power 2 (52 + excessBits (num / den)) * den ≤ num :=
    (Nat.le_div_iff_mul_le hden).1 (power_le_div hexcess)
  have hdvd : power 2 (excessBits (num / den)) ∣ power 2 (52 + excessBits (num / den)) :=
    power_dvd_power 2 (Nat.le_add_left _ _)
  have hgrid : gap num den (nearestQuanta num den) ≤
      gap num den (power 2 (52 + excessBits (num / den))) :=
    nearestQuanta_gap_le_of_dvd hden hdvd
  have hbelow : (other + 1) * den ≤ power 2 (52 + excessBits (num / den)) * den :=
    Nat.mul_le_mul_right den hother
  rw [Nat.succ_mul] at hbelow
  unfold gap at hgrid ⊢
  omega

/-- No magnitude is nearer than the rounded number of quanta. -/
theorem nearestQuanta_gap_le {other : Nat} (hden : 0 < den) (hother : IsMagnitude other) :
    gap num den (nearestQuanta num den) ≤ gap num den other := by
  by_cases h : power 2 (excessBits (num / den)) ∣ other
  · exact nearestQuanta_gap_le_of_dvd hden h
  · exact Nat.le_of_lt (nearestQuanta_gap_lt_of_not_dvd hden hother h)

theorem excessBits_le {quanta shift : Nat} (h : quanta < power 2 (53 + shift)) :
    excessBits quanta ≤ shift := by
  unfold excessBits
  by_cases hzero : quanta = 0
  · rw [hzero]
    exact Nat.zero_le shift
  · have hlog := (log2_lt_iff hzero).2 h
    omega

theorem le_excessBits {quanta shift : Nat} (h : power 2 (52 + shift) ≤ quanta) :
    shift ≤ excessBits quanta := by
  have hne : quanta ≠ 0 := Nat.ne_of_gt (Nat.lt_of_lt_of_le (power_pos _ (by decide)) h)
  have hlog : 52 + shift ≤ quanta.log2 :=
    Nat.not_lt.1 fun hlt => absurd ((log2_lt_iff hne).1 hlt) (Nat.not_lt.2 h)
  unfold excessBits
  omega

/-- A power of two has an even significand. -/
theorem power_significand_even (n : Nat) :
    power 2 (52 + n) / power 2 (excessBits (power 2 (52 + n))) % 2 = 0 := by
  have hexcess : excessBits (power 2 (52 + n)) = n := by
    rw [excessBits, log2_power]
    omega
  rw [hexcess, power_add, Nat.mul_div_cancel _ (power_pos n (by decide))]
  decide

theorem quantaLimit_significand_even :
    quantaLimit / power 2 (excessBits quantaLimit) % 2 = 0 := by
  have hlimit : quantaLimit = power 2 (52 + 2046) := rfl
  rw [hlimit]
  exact power_significand_even 2046

/-- Rounding keeps as many bits as the quotient has, when these are more than 53. -/
theorem power_le_nearestQuanta (h : excessBits (num / den) ≠ 0) :
    power 2 (52 + excessBits (num / den)) ≤ nearestQuanta num den := by
  have hfloor : power 2 52 ≤ num / (den * power 2 (excessBits (num / den))) := by
    rw [← Nat.div_div_eq_div_mul, Nat.le_div_iff_mul_le (power_pos _ (by decide)), ← power_add]
    exact power_le_div h
  rw [power_add]
  refine Nat.mul_le_mul_right _ (Nat.le_trans hfloor ?_)
  rcases roundHalfEven_cases num (den * power 2 (excessBits (num / den))) with hround | hround
  · omega
  · omega

/-- Below its limit of 53 bits, the rounded significand is that of the rounded number. -/
theorem excessBits_nearestQuanta
    (h : roundHalfEven num (den * power 2 (excessBits (num / den))) < power 2 53) :
    excessBits (nearestQuanta num den) = excessBits (num / den) := by
  have habove : nearestQuanta num den < power 2 (53 + excessBits (num / den)) := by
    rw [power_add]
    exact Nat.mul_lt_mul_of_pos_right h (power_pos _ (by decide))
  by_cases hzero : excessBits (num / den) = 0
  · have hle := excessBits_le habove
    omega
  · exact Nat.le_antisymm (excessBits_le habove) (le_excessBits (power_le_nearestQuanta hzero))

/-- The significand of the rounded number is even if rounding gave an even number. -/
theorem nearestQuanta_even
    (h : roundHalfEven num (den * power 2 (excessBits (num / den))) % 2 = 0) :
    nearestQuanta num den / power 2 (excessBits (nearestQuanta num den)) % 2 = 0 := by
  rcases Nat.lt_or_eq_of_le (roundHalfEven_shifted_le num den) with hlt | htop
  · rwa [excessBits_nearestQuanta hlt, nearestQuanta,
      Nat.mul_div_cancel _ (power_pos _ (by decide))]
  · have hpower : nearestQuanta num den = power 2 (52 + (1 + excessBits (num / den))) := by
      rw [nearestQuanta, htop, ← power_add, ← Nat.add_assoc]
    rw [hpower]
    exact power_significand_even _

/-- Below the limit, the rounded number of quanta is what the quotient rounds to. -/
theorem isRounded_nearestQuanta (hden : 0 < den) (h : nearestQuanta num den < quantaLimit) :
    IsRounded num den (nearestQuanta num den) where
  magnitude := .inl (representable_nearestQuanta h)
  nearest other hother := nearestQuanta_gap_le hden hother
  even_of_tie other hother hne htie := by
    refine nearestQuanta_even ?_
    by_cases hdvd : power 2 (excessBits (num / den)) ∣ other
    · obtain ⟨k, rfl⟩ := hdvd
      rw [Nat.mul_comm, nearestQuanta, gap_mul, gap_mul] at htie
      refine roundHalfEven_even_of_tie (Nat.mul_pos hden (power_pos _ (by decide))) ?_ htie
      intro heq
      subst heq
      exact hne (Nat.mul_comm _ _)
    · have := nearestQuanta_gap_lt_of_not_dvd hden hother hdvd
      omega

/-- From the limit on, the quotient rounds to the limit. -/
theorem isRounded_quantaLimit (hden : 0 < den) (h : quantaLimit ≤ nearestQuanta num den) :
    IsRounded num den quantaLimit where
  magnitude := .inr rfl
  nearest _ hother :=
    gap_le_of_between hother.le_quantaLimit h (nearestQuanta_gap_le hden hother)
  even_of_tie _ _ _ _ := quantaLimit_significand_even

end Nearest

/-! ## There is only one nearest magnitude -/

theorem excessBits_mono {m n : Nat} (h : m ≤ n) : excessBits m ≤ excessBits n := by
  by_cases hzero : excessBits m = 0
  · omega
  · refine le_excessBits (Nat.le_trans (power_le_of_le_log2 ?_ ?_) h)
    · intro heq
      subst heq
      exact hzero rfl
    · unfold excessBits at hzero ⊢
      omega

/-- From one magnitude to a greater one it is at least a unit of the smaller one. -/
theorem IsMagnitude.add_unit_le {quanta other : Nat} (h : IsMagnitude quanta)
    (hother : IsMagnitude other) (hlt : quanta < other) :
    quanta + power 2 (excessBits quanta) ≤ other := by
  have hdvd : power 2 (excessBits quanta) ∣ other - quanta :=
    Nat.dvd_sub (Nat.dvd_trans (power_dvd_power 2 (excessBits_mono (Nat.le_of_lt hlt))) hother.dvd)
      h.dvd
  have hle := Nat.le_of_dvd (by omega) hdvd
  omega

/-- A magnitude and a unit make up a magnitude, unless they exceed all of them. -/
theorem IsMagnitude.add_unit {quanta : Nat} (h : IsMagnitude quanta)
    (hle : quanta + power 2 (excessBits quanta) ≤ quantaLimit) :
    IsMagnitude (quanta + power 2 (excessBits quanta)) := by
  have hsum : quanta + power 2 (excessBits quanta) =
      (quanta / power 2 (excessBits quanta) + 1) * power 2 (excessBits quanta) := by
    rw [Nat.succ_mul, Nat.div_mul_cancel h.dvd]
  cases Nat.lt_or_eq_of_le hle with
  | inl hlt =>
    refine .inl ⟨hlt, ?_⟩
    rw [hsum]
    exact dvd_shifted _ (significand_lt quanta)
  | inr heq => exact .inr heq

/-- Two magnitudes that the same quotient rounds to do not differ: they would be neighbours, and of
two neighbours one has an odd significand. -/
theorem IsRounded.not_lt {num den quanta other : Nat} (hden : 0 < den)
    (h : IsRounded num den quanta) (hother : IsRounded num den other) : ¬quanta < other := by
  intro hlt
  have hgap : gap num den quanta = gap num den other :=
    Nat.le_antisymm (h.nearest other hother.magnitude) (hother.nearest quanta h.magnitude)
  have hnext := h.magnitude.add_unit_le hother.magnitude hlt
  have hunit : 0 < power 2 (excessBits quanta) := power_pos _ (by decide)
  have hneighbour : quanta + power 2 (excessBits quanta) = other := by
    refine Nat.le_antisymm hnext (Nat.not_lt.1 fun hbelow => ?_)
    have hmagnitude := h.magnitude.add_unit
      (Nat.le_trans hnext hother.magnitude.le_quantaLimit)
    have hcloser := gap_lt_of_between hden (Nat.lt_add_of_pos_right hunit) hbelow hgap.symm
    exact absurd (h.nearest _ hmagnitude) (Nat.not_le.2 hcloser)
  have heven := h.even_of_tie other hother.magnitude (Nat.ne_of_gt hlt) hgap
  have heven' := hother.even_of_tie quanta h.magnitude (Nat.ne_of_lt hlt) hgap.symm
  have hproduct : other =
      (quanta / power 2 (excessBits quanta) + 1) * power 2 (excessBits quanta) := by
    rw [← hneighbour, Nat.succ_mul, Nat.div_mul_cancel h.magnitude.dvd]
  rcases Nat.lt_or_eq_of_le (Nat.succ_le_of_lt (significand_lt quanta)) with hshort | htop
  · have hbelow : other < power 2 (53 + excessBits quanta) := by
      rw [hproduct, power_add]
      exact Nat.mul_lt_mul_of_pos_right hshort hunit
    have hexcess : excessBits other = excessBits quanta :=
      Nat.le_antisymm (excessBits_le hbelow) (excessBits_mono (Nat.le_of_lt hlt))
    rw [hexcess, hproduct, Nat.mul_div_cancel _ hunit] at heven'
    omega
  · have hpower : power 2 53 % 2 = 0 := by decide
    omega

theorem IsRounded.unique {num den quanta other : Nat} (hden : 0 < den)
    (h : IsRounded num den quanta) (hother : IsRounded num den other) : quanta = other :=
  Nat.le_antisymm (Nat.not_lt.1 (hother.not_lt hden h)) (Nat.not_lt.1 (h.not_lt hden hother))

/-- A greater quotient of the same denominator rounds to no lesser magnitude: the midpoint of two
magnitudes in the wrong order would lie above the lesser quotient and below the greater one. -/
theorem IsRounded.le_of_le {num greater den quanta other : Nat} (hden : 0 < den)
    (hle : num ≤ greater) (h : IsRounded num den quanta) (hother : IsRounded greater den other) :
    quanta ≤ other := by
  apply Nat.not_lt.1
  intro hlt
  have hproduct : other * den < quanta * den := Nat.mul_lt_mul_of_pos_right hlt hden
  have hgap : gap num den quanta ≤ gap num den other := h.nearest other hother.magnitude
  have hgap' : gap greater den other ≤ gap greater den quanta :=
    hother.nearest quanta h.magnitude
  rcases Nat.eq_or_lt_of_le hle with heq | hless
  · subst heq
    exact absurd (h.unique hden hother) (Nat.ne_of_gt hlt)
  · unfold gap at hgap hgap'
    omega

/-! ## Rounding depends on the quotient alone -/

theorem roundHalfEven_mul_left {k : Nat} (hk : 0 < k) (num den : Nat) :
    roundHalfEven (k * num) (k * den) = roundHalfEven num den := by
  have htwice : 2 * (k * (num % den)) = k * (2 * (num % den)) := Nat.mul_left_comm 2 k _
  simp only [roundHalfEven, Nat.mul_div_mul_left num den hk, Nat.mul_mod_mul_left, htwice,
    Nat.mul_lt_mul_left hk, Nat.mul_right_inj (Nat.ne_of_gt hk)]

theorem nearestQuanta_mul_left {k : Nat} (hk : 0 < k) (num den : Nat) :
    nearestQuanta (k * num) (k * den) = nearestQuanta num den := by
  simp only [nearestQuanta, Nat.mul_div_mul_left num den hk, Nat.mul_assoc k,
    roundHalfEven_mul_left hk]

/-- A magnitude rounds to itself, however the quotient is written. -/
theorem nearestQuanta_mul_self {quanta den : Nat} (h : IsMagnitude quanta) (hden : 0 < den) :
    nearestQuanta (quanta * den) den = quanta := by
  have hgap : gap (quanta * den) den (nearestQuanta (quanta * den) den) ≤
      gap (quanta * den) den quanta := nearestQuanta_gap_le hden h
  unfold gap at hgap
  have hproduct : nearestQuanta (quanta * den) den * den = quanta * den := by omega
  exact Nat.eq_of_mul_eq_mul_right hden hproduct

namespace Binary64

theorem ofRatio_mul_left {k : Nat} (hk : 0 < k) (negative : Bool) (num den : Nat) :
    ofRatio negative (k * num) (k * den) = ofRatio negative num den := by
  simp only [ofRatio, ofQuanta, Nat.mul_assoc k, nearestQuanta_mul_left hk]

/-- A double is the one of a given sign that is nearest to `num / den`. -/
inductive IsNearest (negative : Bool) (num den : Nat) : Binary64 → Prop where
  | infinite (limit : IsRounded (num * quantaPerOne) den quantaLimit) :
      IsNearest negative num den (.infinite negative)
  | finite {quanta : Nat} (representable : Representable quanta)
      (rounded : IsRounded (num * quantaPerOne) den quanta) :
      IsNearest negative num den (.finite negative quanta representable)

theorem IsNearest.unique {negative : Bool} {num den : Nat} {x y : Binary64} (hden : 0 < den)
    (hx : x.IsNearest negative num den) (hy : y.IsNearest negative num den) : x = y := by
  cases hx with
  | infinite limit =>
    cases hy with
    | infinite _ => rfl
    | finite representable rounded =>
      exact absurd (rounded.unique hden limit) (Nat.ne_of_lt representable.1)
  | finite representable rounded =>
    cases hy with
    | infinite limit => exact absurd (rounded.unique hden limit) (Nat.ne_of_lt representable.1)
    | finite _ rounded' =>
      obtain rfl := rounded.unique hden rounded'
      rfl

theorem isNearest_ofRatio (negative : Bool) {num den : Nat} (hden : 0 < den) :
    (ofRatio negative num den).IsNearest negative num den := by
  cases Nat.lt_or_ge (nearestQuanta (num * quantaPerOne) den) quantaLimit with
  | inl h =>
    rw [ofRatio, ofQuanta, dif_pos h]
    exact .finite _ (isRounded_nearestQuanta hden h)
  | inr h =>
    rw [ofRatio, ofQuanta, dif_neg (Nat.not_lt.2 h)]
    exact .infinite (isRounded_quantaLimit hden h)

/-! ## Rounding keeps the order -/

/-- A rounded quotient without a sign lies where its magnitude does, infinity at the limit. -/
theorem IsNearest.exists_position {num den : Nat} {x : Binary64}
    (h : x.IsNearest false num den) :
    ∃ quanta : Nat, x.position = some (quanta : Int) ∧
      IsRounded (num * quantaPerOne) den quanta := by
  cases h with
  | infinite limit => exact ⟨quantaLimit, rfl, limit⟩
  | @finite quanta representable rounded => exact ⟨quanta, rfl, rounded⟩

/-- A quotient that is no greater rounds to a double that is no greater. -/
theorem atMost_ofRatio_of_le {num den num' den' : Nat} (hden : 0 < den) (hden' : 0 < den')
    (h : num * den' ≤ num' * den) :
    (ofRatio false num den).atMost (ofRatio false num' den') = true := by
  have hcommon : 0 < den * den' := Nat.mul_pos hden hden'
  have hleft : ofRatio false num den = ofRatio false (num * den') (den * den') := by
    rw [Nat.mul_comm num, Nat.mul_comm den, ofRatio_mul_left hden']
  have hright : ofRatio false num' den' = ofRatio false (num' * den) (den * den') := by
    rw [Nat.mul_comm num', ofRatio_mul_left hden]
  have hnearest : (ofRatio false (num * den') (den * den')).IsNearest false (num * den') _ :=
    isNearest_ofRatio false hcommon
  have hnearest' : (ofRatio false (num' * den) (den * den')).IsNearest false (num' * den) _ :=
    isNearest_ofRatio false hcommon
  obtain ⟨quanta, hposition, hrounded⟩ := hnearest.exists_position
  obtain ⟨quanta', hposition', hrounded'⟩ := hnearest'.exists_position
  have hle : quanta ≤ quanta' :=
    hrounded.le_of_le hcommon (Nat.mul_le_mul_right quantaPerOne h) hrounded'
  rw [hleft, hright, atMost, hposition, hposition']
  simpa using hle

end Binary64

end InventorySearch
